import Mathlib.Data.List.Induction
import SoundDevices.Proofs.ReadBoundaries

set_option autoImplicit false

namespace SoundDevices

inductive CursorUse where
  | next
  | anyPcmNodeChange
  | countRest
  | isTruncated
  | restart
  deriving DecidableEq, Repr

namespace RecordCursor

/-- Where a use leaves a cursor over a buffer. To count the records ahead, or to ask whether one was
cut off, leaves it where it was. -/
def afterUse (buffer : Bytes) (cursor : RecordCursor) : CursorUse → RecordCursor
  | .next => cursor.next.2
  | .anyPcmNodeChange => cursor.anyPcmNodeChange.2
  | .countRest | .isTruncated => cursor
  | .restart => start buffer

def afterUses (buffer : Bytes) (uses : List CursorUse) : RecordCursor :=
  uses.foldl (afterUse buffer) (start buffer)

theorem afterUses_concat (buffer : Bytes) (uses : List CursorUse) (use : CursorUse) :
    afterUses buffer (uses ++ [use]) = afterUse buffer (afterUses buffer uses) use := by
  rw [afterUses, List.foldl_append]
  rfl

def RunsOut (cursor : RecordCursor) : CursorUse → Prop
  | .next => cursor.next.1 = none
  | .anyPcmNodeChange => cursor.anyPcmNodeChange.1 = false
  | .countRest | .isTruncated | .restart => False

/-- Some use since the latest start has run out of records. -/
def HasRunOut (buffer : Bytes) (uses : List CursorUse) : Prop :=
  ∃ before use later, uses = before ++ use :: later ∧ .restart ∉ later ∧
    (afterUses buffer before).RunsOut use

theorem not_hasRunOut_nil (buffer : Bytes) : ¬HasRunOut buffer [] := by
  rintro ⟨before, use, later, split, -⟩
  have length := congrArg List.length split
  rw [List.length_append, List.length_cons, List.length_nil] at length
  omega

theorem hasRunOut_concat_iff (buffer : Bytes) (uses : List CursorUse) (use : CursorUse) :
    HasRunOut buffer (uses ++ [use]) ↔
      (use ≠ .restart ∧ HasRunOut buffer uses) ∨ (afterUses buffer uses).RunsOut use := by
  constructor
  · rintro ⟨before, used, later, split, stays, runsOut⟩
    -- The use that ran out is the last one, or one before it.
    rcases List.eq_nil_or_concat later with rfl | ⟨between, last, rfl⟩
    · obtain ⟨rfl, same⟩ := List.append_inj' split rfl
      obtain rfl := List.singleton_inj.mp same
      exact Or.inr runsOut
    · rw [List.concat_eq_append] at split stays
      rw [← List.cons_append, ← List.append_assoc] at split
      obtain ⟨rfl, same⟩ := List.append_inj' split rfl
      obtain rfl := List.singleton_inj.mp same
      rw [List.mem_append, not_or, List.mem_singleton] at stays
      exact Or.inl ⟨fun restarts => stays.2 restarts.symm, before, used, between, rfl, stays.1,
        runsOut⟩
  · rintro (⟨stays, before, used, later, rfl, noRestart, runsOut⟩ | runsOut)
    · refine ⟨before, used, later ++ [use], by rw [List.append_assoc, List.cons_append], ?_,
        runsOut⟩
      rw [List.mem_append, not_or, List.mem_singleton]
      exact ⟨noRestart, fun restarts => stays restarts.symm⟩
    · exact ⟨uses, use, [], rfl, List.not_mem_nil, runsOut⟩

variable {cursor : RecordCursor}

/-- A cursor that has no record to give stays where it then is. -/
theorem next_of_ended (ended : cursor.next.1 = none) :
    cursor.next.2.next = (none, cursor.next.2) := by
  by_cases stuck : cursor.truncated = true
  · rw [next_of_truncated cursor stuck, next_of_truncated cursor stuck]
  · cases head : recordHead cursor.rest with
    | finished => simp [next, stuck, head]
    | cutOff => simp [next, stuck, head]
    | record record rest => simp [next, stuck, head] at ended

theorem truncated_next {record : ChangeRecord} (read : cursor.next.1 = some record) :
    cursor.next.2.truncated = cursor.truncated := by
  by_cases stuck : cursor.truncated = true
  · rw [next_of_truncated cursor stuck]
  · cases head : recordHead cursor.rest with
    | finished => simp [next, stuck, head]
    | cutOff => simp [next, stuck, head] at read
    | record record rest => simp [next, stuck, head]

theorem next_of_run_nil (ended : cursor.run.1 = []) : cursor.next = (none, cursor.run.2) := by
  cases read : cursor.next.1 with
  | none =>
    rw [run_of_none read, ← read]
  | some record =>
    rw [run_of_some read] at ended
    cases ended

theorem next_of_run_cons {record : ChangeRecord} {rest : List ChangeRecord}
    (ahead : cursor.run.1 = record :: rest) :
    cursor.next.1 = some record ∧ cursor.next.2.run = (rest, cursor.run.2) := by
  cases read : cursor.next.1 with
  | none =>
    rw [run_of_none read] at ahead
    cases ahead
  | some other =>
    rw [run_of_some read] at ahead ⊢
    obtain ⟨rfl, rfl⟩ := List.cons.inj ahead
    exact ⟨rfl, rfl⟩

/-- Where a run has ended, another finds nothing. -/
theorem run_run : cursor.run.2.run = ([], cursor.run.2) := by
  induction ahead : cursor.run.1 generalizing cursor with
  | nil =>
    have ended := next_of_run_nil ahead
    have stays := next_of_ended (congrArg Prod.fst ended)
    rw [ended] at stays
    rw [run_of_none (congrArg Prod.fst stays), stays]
  | cons record rest ih =>
    obtain ⟨-, later⟩ := next_of_run_cons ahead
    have atEnd := ih (congrArg Prod.fst later)
    rwa [later] at atEnd

variable {ahead : List ChangeRecord}

/-- A search that finds a record stops behind it. -/
theorem anyPcmNodeChange_of_found (reads : cursor.run.1 = ahead)
    (found : ahead.findIdx ChangeRecord.isPcmNodeChange < ahead.length) :
    cursor.anyPcmNodeChange.1 = true ∧
      cursor.anyPcmNodeChange.2.run =
        (ahead.drop (ahead.findIdx ChangeRecord.isPcmNodeChange + 1), cursor.run.2) ∧
      cursor.anyPcmNodeChange.2.truncated = cursor.truncated := by
  induction ahead generalizing cursor with
  | nil => exact absurd found (Nat.lt_irrefl 0)
  | cons record rest ih =>
    obtain ⟨read, later⟩ := next_of_run_cons reads
    rw [anyPcmNodeChange_of_some read]
    cases relevant : record.isPcmNodeChange with
    | true =>
      rw [if_pos rfl, List.findIdx_cons, relevant, later]
      exact ⟨rfl, rfl, truncated_next read⟩
    | false =>
      rw [List.findIdx_cons, relevant, cond_false, List.length_cons] at found
      obtain ⟨told, behind, flag⟩ := ih (congrArg Prod.fst later) (by omega)
      rw [if_neg Bool.false_ne_true, List.findIdx_cons, relevant, cond_false, List.drop_succ_cons,
        told, behind, flag, later]
      exact ⟨rfl, rfl, truncated_next read⟩

/-- A search that finds none reads all records. -/
theorem anyPcmNodeChange_of_notFound (reads : cursor.run.1 = ahead)
    (notFound : ahead.length ≤ ahead.findIdx ChangeRecord.isPcmNodeChange) :
    cursor.anyPcmNodeChange = (false, cursor.run.2) := by
  induction ahead generalizing cursor with
  | nil =>
    have ended := next_of_run_nil reads
    rw [anyPcmNodeChange_of_none (congrArg Prod.fst ended), ended]
  | cons record rest ih =>
    obtain ⟨read, later⟩ := next_of_run_cons reads
    cases relevant : record.isPcmNodeChange with
    | true =>
      rw [List.findIdx_cons, relevant, cond_true] at notFound
      exact absurd notFound (Nat.not_succ_le_zero _)
    | false =>
      rw [List.findIdx_cons, relevant, cond_false, List.length_cons] at notFound
      rw [anyPcmNodeChange_of_some read, relevant, if_neg Bool.false_ne_true,
        ih (congrArg Prod.fst later) (by omega), later]

/-- A cursor over a buffer stands at a place in the list of its records. It tells that a record was
cut off if the buffer is truncated and the records have run out. -/
structure StandsAt (buffer : Bytes) (cursor : RecordCursor) (place : Nat) (ranOut : Prop) :
    Prop where
  place_le : place ≤ (records buffer).length
  ahead : cursor.run.1 = (records buffer).drop place
  ends : cursor.run.2.truncated = isTruncated buffer
  truncated_iff : cursor.truncated = true ↔ isTruncated buffer = true ∧ ranOut
  at_end : ranOut → place = (records buffer).length

/-- The place behind the next record, or the next that is searched for; the end if there is none. -/
def placeAfter (all : List ChangeRecord) (place : Nat) : CursorUse → Nat
  | .next => min (place + 1) all.length
  | .anyPcmNodeChange =>
    min (place + (all.drop place).findIdx ChangeRecord.isPcmNodeChange + 1) all.length
  | .countRest | .isTruncated => place
  | .restart => 0

theorem placeAfter_of_found {all : List ChangeRecord} {place found : Nat} {record : ChangeRecord}
    (later : place ≤ found) (stands : all[found]? = some record)
    (relevant : record.isPcmNodeChange = true)
    (first : ∀ earlier other, place ≤ earlier → earlier < found → all[earlier]? = some other →
      other.isPcmNodeChange = false) :
    placeAfter all place .anyPcmNodeChange = found + 1 := by
  obtain ⟨skipped, rfl⟩ := Nat.exists_eq_add_of_le later
  obtain ⟨bound, rfl⟩ := List.getElem?_eq_some_iff.mp stands
  have inside : skipped < (all.drop place).length := by
    rw [List.length_drop]
    omega
  have index : (all.drop place).findIdx ChangeRecord.isPcmNodeChange = skipped := by
    rw [List.findIdx_eq inside]
    refine ⟨by rw [List.getElem_drop]; exact relevant, fun before less => ?_⟩
    rw [List.getElem_drop]
    have within : place + before < all.length := by omega
    exact first (place + before) _ (by omega) (by omega) (List.getElem?_eq_getElem within)
  rw [placeAfter, index]
  omega

namespace StandsAt

variable {buffer : Bytes} {place : Nat} {ranOut : Prop}

theorem start (buffer : Bytes) : StandsAt buffer (start buffer) 0 False where
  place_le := Nat.zero_le _
  ahead := rfl
  ends := rfl
  truncated_iff := iff_of_false Bool.false_ne_true fun both => both.2
  at_end := False.elim

theorem length_ahead (stands : StandsAt buffer cursor place ranOut) :
    cursor.run.1.length = (records buffer).length - place := by
  rw [stands.ahead, List.length_drop]

/-- Behind the last record a use that looks for one leaves the cursor where its run ends. -/
theorem ended (stands : StandsAt buffer cursor place ranOut) {further : Prop} (out : further) :
    StandsAt buffer cursor.run.2 (records buffer).length further where
  place_le := Nat.le_refl _
  ahead := by rw [run_run, List.drop_length]
  ends := by rw [run_run, stands.ends]
  truncated_iff := by
    rw [stands.ends]
    exact ⟨fun cut => ⟨cut, out⟩, fun both => both.1⟩
  at_end := fun _ => rfl

/-- A cursor that has read a record has not run out before. -/
theorem moved {after : RecordCursor} {skipped : Nat} (stands : StandsAt buffer cursor place ranOut)
    (within : skipped < cursor.run.1.length)
    (behind : after.run = (cursor.run.1.drop (skipped + 1), cursor.run.2))
    (flag : after.truncated = cursor.truncated) {further : Prop} (same : further ↔ ranOut) :
    StandsAt buffer after (min (place + skipped + 1) (records buffer).length) further := by
  have room := stands.length_ahead
  have inside : place + skipped + 1 ≤ (records buffer).length := by omega
  rw [Nat.min_eq_left inside]
  refine ⟨inside, ?_, ?_, ?_, ?_⟩
  · rw [behind, stands.ahead, List.drop_drop, Nat.add_assoc]
  · rw [behind, stands.ends]
  · rw [flag, same]
    exact stands.truncated_iff
  · intro out
    have place_eq := stands.at_end (same.mp out)
    omega

theorem afterUse (stands : StandsAt buffer cursor place ranOut) (use : CursorUse) :
    StandsAt buffer (afterUse buffer cursor use) (placeAfter (records buffer) place use)
      ((use ≠ .restart ∧ ranOut) ∨ cursor.RunsOut use) := by
  have room := stands.length_ahead
  have bound := stands.place_le
  cases use with
  | next =>
    cases reads : cursor.run.1 with
    | nil =>
      have none := next_of_run_nil reads
      rw [reads, List.length_nil] at room
      have place_eq : min (place + 1) (records buffer).length = (records buffer).length := by omega
      show StandsAt buffer cursor.next.2 (min (place + 1) (records buffer).length) _
      rw [none, place_eq]
      exact stands.ended (Or.inr (congrArg Prod.fst none))
    | cons record rest =>
      obtain ⟨read, later⟩ := next_of_run_cons reads
      have left : 0 < cursor.run.1.length := by
        rw [reads]
        exact Nat.succ_pos _
      refine stands.moved left ?_ (truncated_next read) ?_
      · rw [reads]
        exact later
      · simp [RunsOut, read]
  | anyPcmNodeChange =>
    rw [placeAfter, ← stands.ahead]
    by_cases found : cursor.run.1.findIdx ChangeRecord.isPcmNodeChange < cursor.run.1.length
    · obtain ⟨told, behind, flag⟩ := anyPcmNodeChange_of_found rfl found
      exact stands.moved found behind flag (by simp [RunsOut, told])
    · have notFound := anyPcmNodeChange_of_notFound rfl (Nat.le_of_not_lt found)
      have place_eq : min (place + cursor.run.1.findIdx ChangeRecord.isPcmNodeChange + 1)
          (records buffer).length = (records buffer).length := by omega
      show StandsAt buffer cursor.anyPcmNodeChange.2 _ _
      rw [notFound, place_eq]
      exact stands.ended (Or.inr (congrArg Prod.fst notFound))
  | countRest => simpa [RecordCursor.afterUse, placeAfter, RunsOut] using stands
  | isTruncated => simpa [RecordCursor.afterUse, placeAfter, RunsOut] using stands
  | restart => simpa [RecordCursor.afterUse, placeAfter, RunsOut] using start buffer

theorem next_eq (stands : StandsAt buffer cursor place ranOut) :
    cursor.next.1 = (records buffer)[place]? := by
  have first : (records buffer)[place]? = cursor.run.1[0]? := by
    rw [stands.ahead, List.getElem?_drop, Nat.add_zero]
  rw [first]
  cases reads : cursor.run.1 with
  | nil => exact congrArg Prod.fst (next_of_run_nil reads)
  | cons record rest => exact (next_of_run_cons reads).1

theorem found_iff (stands : StandsAt buffer cursor place ranOut) :
    cursor.anyPcmNodeChange.1 = true ↔
      ∃ found record, place ≤ found ∧ (records buffer)[found]? = some record ∧
        record.isPcmNodeChange = true := by
  rw [anyPcmNodeChange_fst, List.any_eq_true, stands.ahead]
  constructor
  · rintro ⟨record, member, relevant⟩
    obtain ⟨skipped, stood⟩ := List.mem_iff_getElem?.mp member
    rw [List.getElem?_drop] at stood
    exact ⟨place + skipped, record, Nat.le_add_right _ _, stood, relevant⟩
  · rintro ⟨found, record, later, stood, relevant⟩
    obtain ⟨skipped, rfl⟩ := Nat.exists_eq_add_of_le later
    rw [← List.getElem?_drop] at stood
    exact ⟨record, List.mem_of_getElem? stood, relevant⟩

theorem countRest_eq (stands : StandsAt buffer cursor place ranOut) :
    cursor.countRest = (records buffer).length - place :=
  stands.length_ahead

/-- A cursor that has run out finds nothing any more. -/
theorem nothing_left (stands : StandsAt buffer cursor place ranOut) (out : ranOut) :
    cursor.next.1 = none ∧ cursor.anyPcmNodeChange.1 = false ∧ cursor.countRest = 0 := by
  have place_eq := stands.at_end out
  have none : cursor.run.1 = [] := by rw [stands.ahead, place_eq, List.drop_length]
  refine ⟨congrArg Prod.fst (next_of_run_nil none), ?_, ?_⟩
  · rw [anyPcmNodeChange_fst, none, List.any_nil]
  · rw [countRest, none, List.length_nil]

end StandsAt

/-- The place that uses, one after the other, reach. -/
def placeOf (buffer : Bytes) (uses : List CursorUse) : Nat :=
  uses.foldl (placeAfter (records buffer)) 0

theorem placeOf_concat (buffer : Bytes) (uses : List CursorUse) (use : CursorUse) :
    placeOf buffer (uses ++ [use]) = placeAfter (records buffer) (placeOf buffer uses) use := by
  rw [placeOf, List.foldl_append]
  rfl

theorem standsAt_afterUses (buffer : Bytes) (uses : List CursorUse) :
    StandsAt buffer (afterUses buffer uses) (placeOf buffer uses) (HasRunOut buffer uses) := by
  induction uses using List.reverseRecOn with
  | nil =>
    rw [iff_false_intro (not_hasRunOut_nil buffer)]
    exact StandsAt.start buffer
  | append_singleton uses use ih =>
    rw [hasRunOut_concat_iff, afterUses_concat, placeOf_concat]
    exact ih.afterUse use

/-- What a cursor over a buffer answers after some uses, and where each further use leaves it, if it
stands at the place that those uses lead to in the list of all records. -/
structure AgreesAt (buffer : Bytes) (place : List CursorUse → Nat) (uses : List CursorUse) :
    Prop where
  place_le : place uses ≤ (records buffer).length
  next_eq : (afterUses buffer uses).next.1 = (records buffer)[place uses]?
  next_moves : place (uses ++ [.next]) =
    if place uses < (records buffer).length then place uses + 1 else (records buffer).length
  found_iff : (afterUses buffer uses).anyPcmNodeChange.1 = true ↔
    ∃ found record, place uses ≤ found ∧ (records buffer)[found]? = some record ∧
      record.isPcmNodeChange = true
  found_moves : ∀ found record, place uses ≤ found → (records buffer)[found]? = some record →
    record.isPcmNodeChange = true →
    (∀ earlier other, place uses ≤ earlier → earlier < found →
      (records buffer)[earlier]? = some other → other.isPcmNodeChange = false) →
    place (uses ++ [.anyPcmNodeChange]) = found + 1
  notFound_moves : (afterUses buffer uses).anyPcmNodeChange.1 = false →
    place (uses ++ [.anyPcmNodeChange]) = (records buffer).length
  countRest_eq : (afterUses buffer uses).countRest = (records buffer).length - place uses
  countRest_stays : place (uses ++ [.countRest]) = place uses ∧
    afterUses buffer (uses ++ [.countRest]) = afterUses buffer uses
  truncated_iff : (afterUses buffer uses).truncated = true ↔
    isTruncated buffer = true ∧ HasRunOut buffer uses
  isTruncated_stays : place (uses ++ [.isTruncated]) = place uses ∧
    afterUses buffer (uses ++ [.isTruncated]) = afterUses buffer uses
  ended : ∀ before later, uses = before ++ .next :: later → .restart ∉ later →
    (afterUses buffer before).next.1 = none →
    (afterUses buffer uses).next.1 = none ∧
      (afterUses buffer uses).anyPcmNodeChange.1 = false ∧
      (afterUses buffer uses).countRest = 0
  restarts : place (uses ++ [.restart]) = 0 ∧
    afterUses buffer (uses ++ [.restart]) = start buffer

/-- Step by step a cursor answers as a place in the list of all records does. The place is the start
at first, and again whenever the cursor is started anew; the next record moves it on by one, a
search to behind what it finds, and nothing moves it beyond the end. That a record was cut off shows
once the records have run out. -/
theorem uses_agree_with_records (buffer : Bytes) :
    ∃ place : List CursorUse → Nat, place [] = 0 ∧ ∀ uses, AgreesAt buffer place uses := by
  refine ⟨placeOf buffer, rfl, fun uses => ?_⟩
  have stands := standsAt_afterUses buffer uses
  have bound := stands.place_le
  constructor
  case place_le => exact stands.place_le
  case next_eq => exact stands.next_eq
  case next_moves =>
    rw [placeOf_concat, placeAfter]
    split <;> omega
  case found_iff => exact stands.found_iff
  case found_moves =>
    intro found record later stood relevant first
    rw [placeOf_concat]
    exact placeAfter_of_found later stood relevant first
  case notFound_moves =>
    intro told
    have notFound : ¬(afterUses buffer uses).run.1.findIdx ChangeRecord.isPcmNodeChange <
        (afterUses buffer uses).run.1.length := by
      intro found
      rw [(anyPcmNodeChange_of_found rfl found).1] at told
      cases told
    rw [stands.length_ahead, stands.ahead] at notFound
    rw [placeOf_concat, placeAfter]
    omega
  case countRest_eq => exact stands.countRest_eq
  case countRest_stays => exact ⟨placeOf_concat .., afterUses_concat ..⟩
  case truncated_iff => exact stands.truncated_iff
  case isTruncated_stays => exact ⟨placeOf_concat .., afterUses_concat ..⟩
  case ended =>
    intro before later split noRestart none
    exact stands.nothing_left ⟨before, .next, later, split, noRestart, none⟩
  case restarts => exact ⟨placeOf_concat .., afterUses_concat ..⟩

/-- A search finds the only whole record of a buffer. That another is cut off shows when the next
record is asked for, and not before. -/
theorem uses_agree_with_records_at_cut :
    records (RecordBlock.nodeCame.encode ++ [1, 2]) = [RecordBlock.nodeCame.record] ∧
      (afterUses (RecordBlock.nodeCame.encode ++ [1, 2]) [.anyPcmNodeChange]).truncated = false ∧
      (afterUses (RecordBlock.nodeCame.encode ++ [1, 2])
        [.anyPcmNodeChange, .next]).truncated = true ∧
      (afterUses (RecordBlock.nodeCame.encode ++ [1, 2])
        [.anyPcmNodeChange, .next, .countRest]).anyPcmNodeChange.1 = false := by
  have cut : recordHead [1, 2] = .cutOff := rfl
  have all : records (RecordBlock.nodeCame.encode ++ [1, 2]) = [RecordBlock.nodeCame.record] := by
    rw [RecordBlock.records_encode_append, records_of_cutOff cut]
  have truncated : isTruncated (RecordBlock.nodeCame.encode ++ [1, 2]) = true := by
    rw [RecordBlock.isTruncated_encode_append, isTruncated_of_cutOff cut]
  have relevant : RecordBlock.nodeCame.record.isPcmNodeChange = true := by decide
  obtain ⟨place, start, agrees⟩ :=
    uses_agree_with_records (RecordBlock.nodeCame.encode ++ [1, 2])
  have found : place [.anyPcmNodeChange] = 1 := by
    refine (agrees []).found_moves 0 _ (Nat.le_of_eq start) (by rw [all]; rfl) relevant ?_
    intro earlier _ _ impossible
    exact absurd impossible (Nat.not_lt_zero _)
  have ended := (agrees [.anyPcmNodeChange]).next_eq
  rw [found, all] at ended
  refine ⟨all, ?_, ?_, ?_⟩
  · rw [Bool.eq_false_iff, Ne, (agrees [.anyPcmNodeChange]).truncated_iff]
    rintro ⟨-, ranOut⟩
    rcases (hasRunOut_concat_iff _ [] .anyPcmNodeChange).mp ranOut with ⟨-, ranOut⟩ | notFound
    · exact not_hasRunOut_nil _ ranOut
    · have told := (agrees []).found_iff.mpr
        ⟨0, _, Nat.le_of_eq start, by rw [all]; rfl, relevant⟩
      exact absurd (told.symm.trans notFound) Bool.noConfusion
  · exact (agrees [.anyPcmNodeChange, .next]).truncated_iff.mpr
      ⟨truncated, [.anyPcmNodeChange], .next, [], rfl, List.not_mem_nil, ended⟩
  · have nothing := (agrees [.anyPcmNodeChange, .next, .countRest]).ended [.anyPcmNodeChange]
      [.countRest] rfl (by decide) ended
    exact nothing.2.1

end RecordCursor

end SoundDevices
