import Reconcile.Text.Passage

/-!
# Terminal escape sequences

Compilers decorate their output for terminals. Two kinds of sequence occur: control sequences
(colours, cursor movement) and operating system commands (hyperlinks, window titles). `stripBy`
removes them until none is left: taking one out can join its neighbours into another. Every round
that changes the line shortens it, so the rounds end. What counts as a control sequence is left open
there; `strip` takes `controlSequence`.
-/

namespace Reconcile.Terminal

open Reconcile.Text

/-- The escape character. -/
def escape : Char := '\x1b'

/-- The bell character, which ends an operating system command. -/
def bell : Char := '\x07'

/-- What follows the parameters, intermediates and final character of a control sequence. -/
def afterControl? (text : List Char) : Option (List Char) :=
  let inRange (low high : Nat) (c : Char) : Bool := low ≤ c.toNat && c.toNat ≤ high
  match (text.dropWhile (inRange 0x30 0x3f)).dropWhile (inRange 0x20 0x2f) with
  | final :: rest => if inRange 0x40 0x7e final then some rest else none
  | [] => none

/-- What follows the body and terminator of an operating system command. -/
def afterCommand? : List Char → Option (List Char)
  | [] => none
  | c :: text =>
    if c = bell then some text
    else if c = escape then
      match text with
      | '\\' :: rest => some rest
      | _ => none
    else afterCommand? text

private theorem afterControl?_suffix {text rest : List Char} (h : afterControl? text = some rest) :
    rest <:+ text := by
  unfold afterControl? at h
  dsimp only at h
  split at h
  next final rest' heq =>
    split at h
    next =>
      cases h
      have hfinal : rest <:+ final :: rest := List.suffix_cons final rest
      rw [← heq] at hfinal
      exact hfinal.trans ((List.dropWhile_suffix _).trans (List.dropWhile_suffix _))
    next => cases h
  next => cases h

private theorem afterCommand?_suffix {text rest : List Char} (h : afterCommand? text = some rest) :
    rest <:+ text := by
  induction text with
  | nil => cases h
  | cons c text ih =>
    unfold afterCommand? at h
    split at h
    next =>
      cases h
      exact List.suffix_cons ..
    next =>
      split at h
      next =>
        split at h
        next tail =>
          cases h
          exact ⟨[_, _], rfl⟩
        next => cases h
      next => exact (ih h).trans (List.suffix_cons ..)

private theorem taken_of_suffix {first second : Char} {text rest : List Char}
    (h : rest <:+ text) : ∃ taken, taken ≠ [] ∧ first :: second :: text = taken ++ rest := by
  obtain ⟨front, rfl⟩ := h
  exact ⟨first :: second :: front, by simp, by simp⟩

/-- Control sequences: escape, an opening bracket, parameters, intermediates, one final
character. -/
def controlSequence : Passage where
  after?
    | first :: '[' :: text => if first = escape then afterControl? text else none
    | _ => none
  split {text rest} h := by
    split at h
    next first text' =>
      split at h
      next => exact taken_of_suffix (afterControl?_suffix h)
      next => cases h
    next => cases h

/-- Operating system commands: escape, a closing bracket, a body, and a bell or a string
terminator. -/
def systemCommand : Passage where
  after?
    | first :: ']' :: text => if first = escape then afterCommand? text else none
    | _ => none
  split {text rest} h := by
    split at h
    next first text' =>
      split at h
      next => exact taken_of_suffix (afterCommand?_suffix h)
      next => cases h
    next => cases h

/-- One round of removal, given what counts as a control sequence: the commands, then the control
sequences of what is left. -/
def stripOnceBy (control : Passage) (line : List Char) : List Char :=
  control.erase (systemCommand.erase line)

/-- A round only drops characters. -/
theorem stripOnceBy_sublist (control : Passage) (line : List Char) :
    (stripOnceBy control line).Sublist line :=
  (control.erase_sublist _).trans (systemCommand.erase_sublist _)

/-- A round that changes the line shortens it. -/
theorem length_stripOnceBy_lt {control : Passage} {line : List Char}
    (h : stripOnceBy control line ≠ line) : (stripOnceBy control line).length < line.length :=
  Nat.lt_of_le_of_ne (stripOnceBy_sublist control line).length_le
    fun heq => h ((stripOnceBy_sublist control line).eq_of_length heq)

/-- The line without escape sequences, given what counts as a control sequence: rounds of removal
until one changes nothing. -/
def stripBy (control : Passage) (line : List Char) : List Char :=
  if stripOnceBy control line = line then line else stripBy control (stripOnceBy control line)
termination_by line.length
decreasing_by
  next h => exact length_stripOnceBy_lt h

/-- Stripping only drops characters. -/
theorem stripBy_sublist (control : Passage) (line : List Char) :
    (stripBy control line).Sublist line := by
  fun_induction stripBy control line with
  | case1 line h => exact List.Sublist.refl _
  | case2 line h ih => exact ih.trans (stripOnceBy_sublist control line)

/-- The line without escape sequences. -/
def strip (line : List Char) : List Char :=
  stripBy controlSequence line

/-- Text without control sequences, as it is printed where colour is off. -/
def uncoloured (text : String) : String :=
  String.ofList (controlSequence.erase text.toList)

end Reconcile.Terminal
