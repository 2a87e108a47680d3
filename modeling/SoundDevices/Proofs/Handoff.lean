import Mathlib.Data.List.DropRight
import Mathlib.Data.List.Induction
import SoundDevices.Watch.Published

set_option autoImplicit false

/- Histories of a published state. Threads publish, take and signal, each while it holds the lock,
so that a history is a list of such acts in the order in which the lock was held. What becomes of a
result is settled by the acts after it: the first one that is no signal hands it out or replaces it,
and until then it waits. `fates` reads this off a history, and the state does the same.

The results may be of any type. Where equal results are to be told apart, they may carry the time at
which they were published. -/
namespace SoundDevices

namespace PublishedState

variable {α : Type}

/-- What a thread does while it holds the lock. -/
inductive Act (α : Type) where
  | publish (result : α)
  | take
  | signal

namespace Act

def apply (state : PublishedState α) : Act α → PublishedState α
  | publish result => state.publish result
  | take => state.take.2
  | signal => state.signal

def handsOut (state : PublishedState α) : Act α → Option α
  | take => state.take.1
  | publish _ | signal => none

/-- The result that an act throws away: a publication replaces the one that waits. -/
def discards (state : PublishedState α) : Act α → Option α
  | publish _ => state.ready
  | take | signal => none

def published? : Act α → Option α
  | publish result => some result
  | take | signal => none

def isTake : Act α → Bool
  | take => true
  | publish _ | signal => false

def isSignal : Act α → Bool
  | signal => true
  | publish _ | take => false

def arrives : Act α → Bool
  | publish _ | signal => true
  | take => false

end Act

def replay (state : PublishedState α) (history : List (Act α)) : PublishedState α :=
  history.foldl Act.apply state

/-- What the acts of a history yield, each in the state that it finds. -/
def gather (yields : PublishedState α → Act α → Option α) (state : PublishedState α) :
    List (Act α) → List α
  | [] => []
  | act :: later => (yields state act).toList ++ gather yields (act.apply state) later

def published (history : List (Act α)) : List α := history.filterMap Act.published?

/-- The results handed out in a history that begins with an unused state. -/
def handedOut (history : List (Act α)) : List α := gather Act.handsOut {} history

/-- The results thrown away in a history that begins with an unused state. -/
def superseded (history : List (Act α)) : List α := gather Act.discards {} history

/-- The acts after the last take, all of them if there is none. -/
def sinceTake (history : List (Act α)) : List (Act α) := history.rtakeWhile (!·.isTake)

inductive Fate where
  | handedOut
  | superseded
  | waiting
  deriving DecidableEq

/-- What becomes of a result, by the acts after it. -/
def fate : List (Act α) → Fate
  | [] => .waiting
  | .publish _ :: _ => .superseded
  | .take :: _ => .handedOut
  | .signal :: later => fate later

/-- The results published in a history, each with what becomes of it. -/
def fates : List (Act α) → List (α × Fate)
  | [] => []
  | .publish result :: later => (result, fate later) :: fates later
  | .take :: later | .signal :: later => fates later

def withFate (outcome : Fate) (history : List (Act α)) : List α :=
  ((fates history).filter (·.2 = outcome)).map (·.1)

theorem map_fst_fates (history : List (Act α)) :
    (fates history).map (·.1) = published history := by
  induction history with
  | nil => rfl
  | cons act later ih =>
    cases act with
    | publish result => exact congrArg (result :: ·) ih
    | take => exact ih
    | signal => exact ih

theorem withFate_sublist (outcome : Fate) (history : List (Act α)) :
    (withFate outcome history).Sublist (published history) := by
  rw [← map_fst_fates]
  exact List.filter_sublist.map _

theorem withFate_publish (outcome : Fate) (result : α) (later : List (Act α)) :
    withFate outcome (.publish result :: later) =
      if fate later = outcome then result :: withFate outcome later
      else withFate outcome later := by
  by_cases same : fate later = outcome <;> simp [withFate, fates, same]

/-- The history that leaves nothing but the result that waits. -/
def recent (state : PublishedState α) : List (Act α) := state.ready.toList.map .publish

theorem withFate_recent (outcome : Fate) (state : PublishedState α) :
    withFate outcome state.recent = if outcome = .waiting then state.ready.toList else [] := by
  cases waits : state.ready with
  | none => simp [recent, waits, withFate, fates]
  | some result =>
    cases outcome <;> simp [recent, waits, withFate, fates, fate]

theorem withFate_recent_signal (outcome : Fate) (state : PublishedState α)
    (later : List (Act α)) :
    withFate outcome (state.recent ++ .signal :: later) =
      withFate outcome (state.recent ++ later) := by
  have quiet : withFate outcome (.signal :: later) = withFate outcome later := rfl
  cases waits : state.ready with
  | none => simpa [recent, waits] using quiet
  | some result => simp [recent, waits, withFate_publish, fate, quiet]

theorem withFate_recent_take (outcome : Fate) (state : PublishedState α) (later : List (Act α)) :
    withFate outcome (state.recent ++ .take :: later) =
      (if outcome = .handedOut then state.ready.toList else []) ++ withFate outcome later := by
  have quiet : withFate outcome (.take :: later) = withFate outcome later := rfl
  cases waits : state.ready with
  | none => simpa [recent, waits] using quiet
  | some result =>
    cases outcome <;> simp [recent, waits, withFate_publish, fate, quiet]

theorem withFate_recent_publish (outcome : Fate) (state : PublishedState α) (result : α)
    (later : List (Act α)) :
    withFate outcome (state.recent ++ .publish result :: later) =
      (if outcome = .superseded then state.ready.toList else []) ++
        withFate outcome (.publish result :: later) := by
  cases waits : state.ready with
  | none => simp [recent, waits]
  | some old =>
    have settled : fate (.publish result :: later) = .superseded := rfl
    have shown : state.recent ++ .publish result :: later =
        .publish old :: .publish result :: later := by simp [recent, waits]
    rw [shown, withFate_publish, settled]
    cases outcome <;> simp

/-- The result to which an act gives a fate. -/
def Act.settles (outcome : Fate) (state : PublishedState α) (act : Act α) : Option α :=
  match outcome with
  | .handedOut => act.handsOut state
  | .superseded => act.discards state
  | .waiting => none

/-- An act gives a fate to the result that it finds, and to no other. -/
theorem withFate_recent_cons (outcome : Fate) (state : PublishedState α) (act : Act α)
    (later : List (Act α)) :
    withFate outcome (state.recent ++ act :: later) =
      (act.settles outcome state).toList ++
        withFate outcome ((act.apply state).recent ++ later) := by
  cases act with
  | publish result =>
    rw [withFate_recent_publish]
    cases outcome <;> rfl
  | take =>
    rw [withFate_recent_take]
    cases outcome <;> rfl
  | signal =>
    rw [withFate_recent_signal]
    cases outcome <;> rfl

/-- The results of one fate are those to which the acts of a history give it, and of those that
wait the one that still waits in the end. -/
theorem withFate_recent_append (outcome : Fate) (state : PublishedState α)
    (history : List (Act α)) :
    withFate outcome (state.recent ++ history) =
      gather (Act.settles outcome) state history ++
        withFate outcome (replay state history).recent := by
  -- of all that was published before, only the result that waits can still meet its fate
  induction history generalizing state with
  | nil =>
    rw [List.append_nil]
    rfl
  | cons act later ih =>
    rw [withFate_recent_cons, ih, ← List.append_assoc]
    rfl

theorem gather_concat (yields : PublishedState α → Act α → Option α) (state : PublishedState α)
    (history : List (Act α)) (act : Act α) :
    gather yields state (history ++ [act]) =
      gather yields state history ++ (yields (replay state history) act).toList := by
  induction history generalizing state with
  | nil => exact List.append_nil _
  | cons first later ih =>
    rw [List.cons_append, gather, ih, gather, List.append_assoc]
    rfl

theorem gather_none (state : PublishedState α) (history : List (Act α)) :
    gather (fun _ _ => none) state history = [] := by
  induction history generalizing state with
  | nil => rfl
  | cons act later ih => exact ih (act.apply state)

theorem handedOut_eq (history : List (Act α)) :
    handedOut history = withFate .handedOut history := by
  have whole := withFate_recent_append .handedOut {} history
  rw [withFate_recent, if_neg (by decide), List.append_nil] at whole
  exact whole.symm

theorem superseded_eq (history : List (Act α)) :
    superseded history = withFate .superseded history := by
  have whole := withFate_recent_append .superseded {} history
  rw [withFate_recent, if_neg (by decide), List.append_nil] at whole
  exact whole.symm

theorem toList_ready_replay (history : List (Act α)) :
    (replay {} history).ready.toList = withFate .waiting history := by
  have whole := withFate_recent_append .waiting {} history
  have nothing : gather (Act.settles .waiting) {} history = [] := gather_none {} history
  rw [withFate_recent, if_pos rfl, nothing, List.nil_append] at whole
  exact whole.symm

theorem replay_concat (state : PublishedState α) (history : List (Act α)) (act : Act α) :
    replay state (history ++ [act]) = act.apply (replay state history) :=
  List.foldl_concat ..

theorem published_concat (history : List (Act α)) (act : Act α) :
    published (history ++ [act]) = published history ++ act.published?.toList := by
  rw [published, List.filterMap_append]
  cases act <;> rfl

/-- What waits is the newest result since the last take. -/
theorem ready_replay (history : List (Act α)) :
    (replay {} history).ready = (published (sinceTake history)).getLast? := by
  induction history using List.reverseRecOn with
  | nil => rfl
  | append_singleton history act ih =>
    rw [replay_concat]
    cases act with
    | publish result =>
      rw [sinceTake, List.rtakeWhile_concat_pos _ _ _ rfl, published_concat]
      exact List.getLast?_concat.symm
    | take =>
      rw [sinceTake, List.rtakeWhile_concat_neg _ _ _ (by simp [Act.isTake])]
      rfl
    | signal =>
      rw [sinceTake, List.rtakeWhile_concat_pos _ _ _ rfl, published_concat]
      simpa [Act.apply, Act.published?, sinceTake] using ih

theorem discovered_replay (state : PublishedState α) (history : List (Act α)) :
    (replay state history).discovered = true ↔
      state.discovered = true ∨ ∃ result, .publish result ∈ history := by
  induction history using List.reverseRecOn with
  | nil => simp [replay]
  | append_singleton history act ih =>
    rw [replay_concat]
    cases act with
    | publish result => simp [Act.apply]
    | take => simpa [Act.apply] using ih
    | signal => simpa [Act.apply] using ih

theorem signals_replay (state : PublishedState α) (history : List (Act α)) :
    (replay state history).signals =
      state.signals + UInt64.ofNat (history.countP Act.arrives) := by
  induction history using List.reverseRecOn with
  | nil => exact (UInt64.add_zero _).symm
  | append_singleton history act ih =>
    rw [replay_concat, List.countP_append, UInt64.ofNat_add, ← UInt64.add_assoc, ← ih]
    cases act with
    | publish result => rfl
    | take => exact (UInt64.add_zero _).symm
    | signal => rfl

theorem countP_arrives (history : List (Act α)) :
    history.countP Act.arrives = (published history).length + history.countP Act.isSignal := by
  induction history with
  | nil => rfl
  | cons act later ih =>
    rw [List.countP_cons, List.countP_cons, ih]
    cases act with
    | publish result =>
      show _ + 1 = (published later).length + 1 + (_ + 0)
      omega
    | take => rfl
    | signal => exact (Nat.add_assoc ..)

/-- Every result is handed out exactly once, unless a later one replaces it first. A take hands out
the newest result published since the take before it, and nothing if there is none. What is handed
out, what is superseded and what still waits are the published results of these three fates, each
in the order of publication, and every published result has one of them. The first publication
makes the discovery, and the count is that of all publications and signals. -/
theorem handoff_is_exactly_once (history : List (Act α)) :
    (replay {} history).take.1 = (published (sinceTake history)).getLast? ∧
    ((fates history).map (·.1) = published history ∧
      handedOut history = withFate .handedOut history ∧
      superseded history = withFate .superseded history ∧
      (replay {} history).ready.toList = withFate .waiting history) ∧
    (handedOut history).Sublist (published history) ∧
    ((replay {} history).discovered = true ↔ ∃ result, .publish result ∈ history) ∧
    (replay {} history).signals.toNat =
      ((published history).length + history.countP Act.isSignal) % UInt64.size := by
  have order : (handedOut history).Sublist (published history) := by
    rw [handedOut_eq]
    exact withFate_sublist .handedOut history
  refine ⟨ready_replay history, ⟨map_fst_fates history, handedOut_eq history,
    superseded_eq history, toList_ready_replay history⟩, order, ?_, ?_⟩
  · rw [discovered_replay]
    exact or_iff_right Bool.false_ne_true
  · rw [signals_replay, countP_arrives, UInt64.zero_add, UInt64.toNat_ofNat']

/-- A signal between two publications does not save the first from being superseded. -/
example : fates [.publish 1, .signal, .publish 2, .take, .signal, .take, .publish 3] =
    [(1, .superseded), (2, .handedOut), (3, .waiting)] := rfl

end PublishedState

end SoundDevices
