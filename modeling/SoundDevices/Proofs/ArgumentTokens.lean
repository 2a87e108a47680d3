import Mathlib.Data.List.Basic
import SoundDevices.CommandLine.Options

set_option autoImplicit false

namespace SoundDevices

/-- What reading takes from a command line at one time. -/
inductive OptionToken where
  | json
  | once
  | dummy
  | config (path : String)
  deriving DecidableEq, Repr

namespace OptionToken

def arguments : OptionToken → List String
  | json => ["--json"]
  | once => ["--once"]
  | dummy => ["--dummy"]
  | config path => ["--config", path]

def path? : OptionToken → Option String
  | config path => some path
  | _ => none

def spell (tokens : List OptionToken) : List String := tokens.flatMap arguments

@[simp] theorem spell_nil : spell [] = [] := rfl

@[simp] theorem spell_cons (token : OptionToken) (tokens : List OptionToken) :
    spell (token :: tokens) = token.arguments ++ spell tokens := rfl

@[simp] theorem spell_append (first second : List OptionToken) :
    spell (first ++ second) = spell first ++ spell second := List.flatMap_append

theorem length_arguments_pos (token : OptionToken) : 0 < token.arguments.length := by
  cases token <;> simp [arguments]

/-- The arguments of a token tell it, whatever follows. -/
theorem arguments_append_inj {token other : OptionToken} {rest more : List String}
    (same : token.arguments ++ rest = other.arguments ++ more) : token = other ∧ rest = more := by
  cases token <;> cases other <;> simp_all [arguments]

end OptionToken

namespace Options

open OptionToken (spell)

def add (before : Options) : OptionToken → Options
  | .json => { before with json := true }
  | .once => { before with once := true }
  | .dummy => { before with dummy := true }
  | .config path => { before with config := some path }

/-- What some tokens ask for: a flag if it is among them, and the path of the last that has one. -/
def asked (tokens : List OptionToken) : Options where
  config := (tokens.filterMap OptionToken.path?).getLast?
  json := decide (.json ∈ tokens)
  once := decide (.once ∈ tokens)
  dummy := decide (.dummy ∈ tokens)

/-- What is asked for by one command line and another behind it. -/
def followedBy (first second : Options) : Options where
  config := second.config.or first.config
  json := first.json || second.json
  once := first.once || second.once
  dummy := first.dummy || second.dummy

/-- No token begins with these arguments: the option for a path is the last of them, or the first of
them is none that the program knows. -/
inductive StopsAt : List String → UsageError → Prop
  | missingPath : StopsAt ["--config"] .missingPath
  | unknown (argument : String) (rest : List String)
      (other : argument ∉ ["--config", "--json", "--once", "--dummy"]) :
      StopsAt (argument :: rest) (.unknown argument)

theorem parseFrom_arguments (before : Options) (token : OptionToken) (rest : List String) :
    parseFrom before (token.arguments ++ rest) = parseFrom (before.add token) rest := by
  cases token <;> simp [OptionToken.arguments, parseFrom, add]

theorem parseFrom_spell (before : Options) (tokens : List OptionToken) (rest : List String) :
    parseFrom before (spell tokens ++ rest) = parseFrom (tokens.foldl add before) rest := by
  induction tokens generalizing before with
  | nil => rfl
  | cons token tokens ih =>
    rw [OptionToken.spell_cons, List.append_assoc, parseFrom_arguments, ih, List.foldl_cons]

theorem parseFrom_of_stopsAt (before : Options) {rest : List String} {failure : UsageError}
    (stops : StopsAt rest failure) : parseFrom before rest = .error failure := by
  cases stops with
  | missingPath => rfl
  | unknown argument rest other =>
    simp at other
    simp [parseFrom, other]

theorem StopsAt.ne_arguments_append {rest : List String} {failure : UsageError}
    (stops : StopsAt rest failure) (token : OptionToken) (more : List String) :
    rest ≠ token.arguments ++ more := by
  cases stops with
  | missingPath => cases token <;> simp [OptionToken.arguments]
  | unknown argument rest other =>
    intro same
    cases token <;> simp_all [OptionToken.arguments]

/-- Arguments begin with a token, unless there are none or none can begin there. -/
theorem begins_or_stops (arguments : List String) :
    arguments = [] ∨ (∃ failure, StopsAt arguments failure) ∨
      ∃ (token : OptionToken) (more : List String), arguments = token.arguments ++ more := by
  cases arguments with
  | nil => exact Or.inl rfl
  | cons argument more =>
    refine Or.inr ?_
    by_cases known : argument ∈ ["--config", "--json", "--once", "--dummy"]
    · simp only [List.mem_cons, List.not_mem_nil, or_false] at known
      rcases known with rfl | rfl | rfl | rfl
      · cases more with
        | nil => exact Or.inl ⟨_, .missingPath⟩
        | cons path more => exact Or.inr ⟨.config path, more, rfl⟩
      · exact Or.inr ⟨.json, more, rfl⟩
      · exact Or.inr ⟨.once, more, rfl⟩
      · exact Or.inr ⟨.dummy, more, rfl⟩
    · exact Or.inl ⟨_, .unknown argument more known⟩

def Splits (arguments : List String) (tokens : List OptionToken) (rest : List String) : Prop :=
  arguments = spell tokens ++ rest ∧ (rest = [] ∨ ∃ failure, StopsAt rest failure)

theorem exists_splits (arguments : List String) : ∃ tokens rest, Splits arguments tokens rest := by
  rcases begins_or_stops arguments with rfl | stops | ⟨token, more, rfl⟩
  · exact ⟨[], [], rfl, Or.inl rfl⟩
  · exact ⟨[], arguments, rfl, Or.inr stops⟩
  · obtain ⟨tokens, rest, rfl, ends⟩ := exists_splits more
    exact ⟨token :: tokens, rest, by rw [OptionToken.spell_cons, List.append_assoc], ends⟩
termination_by arguments.length
decreasing_by
  subst_vars
  have some := token.length_arguments_pos
  simp only [List.length_append]
  omega

/-- No reading of a command line by tokens goes further than its split, nor another way. -/
theorem Splits.longest {arguments : List String} {tokens : List OptionToken} {rest : List String}
    (splits : Splits arguments tokens rest) {others : List OptionToken} {more : List String}
    (reads : arguments = spell others ++ more) : others <+: tokens := by
  obtain ⟨rfl, ends⟩ := splits
  induction others generalizing tokens with
  | nil => exact List.nil_prefix
  | cons other others ih =>
    rw [OptionToken.spell_cons, List.append_assoc] at reads
    cases tokens with
    | nil =>
      rw [OptionToken.spell_nil, List.nil_append] at reads
      rcases ends with rfl | ⟨failure, stops⟩
      · cases other <;> simp [OptionToken.arguments] at reads
      · exact absurd reads (stops.ne_arguments_append other _)
    | cons token tokens =>
      rw [OptionToken.spell_cons, List.append_assoc] at reads
      obtain ⟨rfl, tails⟩ := OptionToken.arguments_append_inj reads
      exact (List.prefix_cons_inj token).mpr (ih tails)

theorem spell_inj {first second : List OptionToken} (same : spell first = spell second) :
    first = second := by
  have forth : first <+: second := Splits.longest ⟨(List.append_nil _).symm, Or.inl rfl⟩
    (same.symm.trans (List.append_nil _).symm)
  have back : second <+: first := Splits.longest ⟨(List.append_nil _).symm, Or.inl rfl⟩
    (same.trans (List.append_nil _).symm)
  exact forth.eq_of_length (Nat.le_antisymm forth.length_le back.length_le)

theorem asked_append (first second : List OptionToken) :
    asked (first ++ second) = (asked first).followedBy (asked second) := by
  simp [asked, followedBy]

theorem followedBy_assoc (first second third : Options) :
    (first.followedBy second).followedBy third = first.followedBy (second.followedBy third) := by
  simp [followedBy, Option.or_assoc, Bool.or_assoc]

theorem add_eq (before : Options) (token : OptionToken) :
    before.add token = before.followedBy (asked [token]) := by
  cases token <;> simp [add, followedBy, asked, OptionToken.path?]

/-- What is added token by token is what the tokens ask for together. -/
theorem foldl_add (tokens : List OptionToken) (before : Options) :
    tokens.foldl add before = before.followedBy (asked tokens) := by
  induction tokens generalizing before with
  | nil => simp [followedBy, asked]
  | cons token tokens ih =>
    rw [List.foldl_cons, ih, add_eq, followedBy_assoc, ← asked_append]
    rfl

/-- Reading goes on behind the tokens that it has read. -/
theorem parse_spell_append (tokens : List OptionToken) (rest : List String) :
    parse (spell tokens ++ rest) = parseFrom (asked tokens) rest := by
  rw [parse, parseFrom_spell, foldl_add]
  simp [followedBy]

theorem parse_spell (tokens : List OptionToken) : parse (spell tokens) = .ok (asked tokens) := by
  have reading := parse_spell_append tokens []
  rwa [List.append_nil] at reading

theorem parse_eq_ok_iff (arguments : List String) (options : Options) :
    parse arguments = .ok options ↔
      ∃ tokens, spell tokens = arguments ∧ asked tokens = options := by
  constructor
  · intro understood
    obtain ⟨tokens, rest, rfl, rfl | ⟨failure, stops⟩⟩ := exists_splits arguments
    · rw [List.append_nil, parse_spell] at understood
      exact ⟨tokens, (List.append_nil _).symm, Except.ok.inj understood⟩
    · rw [parse_spell_append, parseFrom_of_stopsAt _ stops] at understood
      exact nomatch understood
  · rintro ⟨tokens, rfl, rfl⟩
    exact parse_spell tokens

theorem parse_eq_error_iff (arguments : List String) (failure : UsageError) :
    parse arguments = .error failure ↔
      ∃ tokens rest, arguments = spell tokens ++ rest ∧ StopsAt rest failure := by
  constructor
  · intro refused
    obtain ⟨tokens, rest, rfl, rfl | ⟨other, stops⟩⟩ := exists_splits arguments
    · rw [List.append_nil, parse_spell] at refused
      exact nomatch refused
    · rw [parse_spell_append, parseFrom_of_stopsAt _ stops] at refused
      obtain rfl := Except.error.inj refused
      exact ⟨tokens, rest, rfl, stops⟩
  · rintro ⟨tokens, rest, rfl, stops⟩
    rw [parse_spell_append, parseFrom_of_stopsAt _ stops]

theorem parse_append_of_ok {first second : List String} {options others : Options}
    (understood : parse first = .ok options) (understoodToo : parse second = .ok others) :
    parse (first ++ second) = .ok (options.followedBy others) := by
  obtain ⟨tokens, rfl, rfl⟩ := (parse_eq_ok_iff first options).mp understood
  obtain ⟨more, rfl, rfl⟩ := (parse_eq_ok_iff second others).mp understoodToo
  rw [← OptionToken.spell_append, parse_spell, asked_append]

theorem parse_append_of_error {first second : List String} {options : Options}
    {failure : UsageError} (understood : parse first = .ok options)
    (refused : parse second = .error failure) : parse (first ++ second) = .error failure := by
  obtain ⟨tokens, rfl, -⟩ := (parse_eq_ok_iff first options).mp understood
  obtain ⟨more, rest, rfl, stops⟩ := (parse_eq_error_iff second failure).mp refused
  rw [← List.append_assoc, ← OptionToken.spell_append]
  exact (parse_eq_error_iff _ failure).mpr ⟨tokens ++ more, rest, rfl, stops⟩

/-- How a command line is read: it is understood if it is made of tokens, and else fails at the
first place from the left where no token begins. -/
structure ReadsByTokens (arguments : List String) : Prop where
  understood : ∀ options, parse arguments = .ok options ↔
    ∃ tokens, spell tokens = arguments ∧ asked tokens = options
  unique : ∀ first second, spell first = arguments → spell second = arguments → first = second
  refused : ∀ failure, parse arguments = .error failure ↔
    ∃ tokens rest, arguments = spell tokens ++ rest ∧ StopsAt rest failure ∧
      ∀ others more, arguments = spell others ++ more → others <+: tokens
  missingPath : parse arguments = .error .missingPath →
    arguments.getLast? = some "--config" ∧
      UsageError.missingPath.message = "--config needs a path\n" ++
        "usage: soundwatch [--config <path>] [--json] [--once] [--dummy]"
  unknown : ∀ argument, parse arguments = .error (.unknown argument) →
    argument ∈ arguments ∧
      (UsageError.unknown argument).message = "unknown argument " ++ Text.quote argument ++ "\n" ++
        "usage: soundwatch [--config <path>] [--json] [--once] [--dummy]"
  append : ∀ options more others, parse arguments = .ok options → parse more = .ok others →
    parse (arguments ++ more) = .ok (options.followedBy others)
  appendError : ∀ options more failure, parse arguments = .ok options →
    parse more = .error failure → parse (arguments ++ more) = .error failure

/-- Every command line is read token by token. -/
theorem reading_follows_tokens (arguments : List String) : ReadsByTokens arguments := by
  constructor
  case understood => exact parse_eq_ok_iff arguments
  case unique =>
    rintro first second rfl same
    exact spell_inj same.symm
  case refused =>
    intro failure
    rw [parse_eq_error_iff]
    constructor
    · rintro ⟨tokens, rest, split, stops⟩
      have splits : Splits arguments tokens rest := ⟨split, Or.inr ⟨failure, stops⟩⟩
      exact ⟨tokens, rest, split, stops, fun others more reads => splits.longest reads⟩
    · rintro ⟨tokens, rest, split, stops, -⟩
      exact ⟨tokens, rest, split, stops⟩
  case missingPath =>
    intro refused
    obtain ⟨tokens, rest, rfl, stops⟩ := (parse_eq_error_iff arguments _).mp refused
    cases stops with
    | missingPath => exact ⟨List.getLast?_concat, rfl⟩
  case unknown =>
    intro argument refused
    obtain ⟨tokens, rest, rfl, stops⟩ := (parse_eq_error_iff arguments _).mp refused
    cases stops with
    | unknown _ rest other =>
      exact ⟨List.mem_append_right _ List.mem_cons_self, rfl⟩
  case append => exact fun options more others => parse_append_of_ok
  case appendError => exact fun options more failure => parse_append_of_error

/-- An argument that looks like a flag is a path behind the option for one, so that no flag is set
by it; behind this command line an unknown argument is refused as it is alone. -/
theorem reading_follows_tokens_flag_as_path :
    parse ["--config", "--json", "--once"] = .ok { config := some "--json", once := true } ∧
      parse ["--loud"] = .error (.unknown "--loud") ∧
      parse ["--config", "--json", "--once", "--loud"] = .error (.unknown "--loud") := by
  have reads := reading_follows_tokens ["--config", "--json", "--once"]
  have understood : parse ["--config", "--json", "--once"] =
      .ok { config := some "--json", once := true } :=
    (reads.understood _).mpr ⟨[.config "--json", .once], rfl, by decide⟩
  have refused : parse ["--loud"] = .error (.unknown "--loud") := rfl
  exact ⟨understood, refused, reads.appendError _ _ _ understood refused⟩

end Options

end SoundDevices
