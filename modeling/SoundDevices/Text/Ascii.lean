set_option autoImplicit false

namespace SoundDevices.Text

/-- The text with the letters A to Z in lower case; no other letter is folded. -/
def lower (text : List Char) : List Char := text.map Char.toLower

@[simp] theorem lower_nil : lower [] = [] := rfl

@[simp] theorem lower_cons (c : Char) (text : List Char) :
    lower (c :: text) = c.toLower :: lower text := rfl

@[simp] theorem lower_append (first second : List Char) :
    lower (first ++ second) = lower first ++ lower second :=
  List.map_append

def occursIn (pattern : List Char) : List Char → Bool
  | [] => pattern.isEmpty
  | c :: rest => pattern.isPrefixOf (c :: rest) || occursIn pattern rest

theorem occursIn_nil (pattern : List Char) : occursIn pattern [] = pattern.isEmpty := rfl

theorem occursIn_cons (pattern : List Char) (c : Char) (rest : List Char) :
    occursIn pattern (c :: rest) = (pattern.isPrefixOf (c :: rest) || occursIn pattern rest) := rfl

/-- What follows `start` in a text that begins with it. -/
def after? (start text : List Char) : Option (List Char) :=
  if start.isPrefixOf text then some (text.drop start.length) else none

theorem after?_append (start rest : List Char) : after? start (start ++ rest) = some rest := by
  simp [after?]

theorem eq_append_of_after? {start text rest : List Char} (found : after? start text = some rest) :
    text = start ++ rest := by
  unfold after? at found
  split at found
  · next lead =>
    obtain ⟨tail, rfl⟩ := List.isPrefixOf_iff_prefix.mp lead
    simp at found
    rw [found]
  · simp at found

end SoundDevices.Text
