import Vigil.Fault.Error

/-!
# Errors have messages

Whatever an error is about, its wording is not empty. The one exception is a rejection in the
supervisor's own words, when it has none.

* `Error.message_ne_empty`: every other error has a message.
* `Error.torn_message_iff`: only the words of the supervisor can be torn.
-/

namespace Vigil

namespace Text

variable {s t : String}

theorem append_ne_left (h : s ≠ "") : s ++ t ≠ "" := fun e =>
  h (String.append_eq_empty_iff.mp e).1

theorem append_ne_right (h : t ≠ "") : s ++ t ≠ "" := fun e =>
  h (String.append_eq_empty_iff.mp e).2

end Text

namespace LooseText

variable {s t : LooseText}

theorem append_ne_left (h : s ≠ "") : s ++ t ≠ "" := fun e =>
  h (congrArg mk (List.append_eq_nil_iff.mp (congrArg points e)).1)

/-- A string is no empty text unless it is the empty one. -/
theorem ofString_ne_empty {s : String} (h : s ≠ "") : ofString s ≠ "" := mt ofString_inj.mp h

end LooseText

open Text
open LooseText (ofString_ne_empty)

theorem ChannelFault.message_ne_empty (f : ChannelFault) : f.message ≠ "" := by
  cases f with
  | stayedBusy timeout => exact append_ne_left (append_ne_left (by decide))
  | cannotOpen fault => exact append_ne_left (by decide)
  | inputOutput fault => exact append_ne_left (by decide)
  | pipeMissing => decide
  | notConnected => decide
  | writeIncomplete => decide
  | nothingRead => decide

theorem FieldFault.message_ne_empty (f : FieldFault) : f.message ≠ "" := by
  cases f with
  | wrongKind key wanted got => exact append_ne_left (append_ne_left (append_ne_left
      (append_ne_left (append_ne_left (by decide)))))
  | notFinite key x => exact append_ne_left (append_ne_right (by decide))

theorem EntryFault.message_ne_empty (f : EntryFault) : f.message ≠ "" := by
  cases f with
  | notObject what got => exact append_ne_left (append_ne_right (by decide))
  | field fault => exact fault.message_ne_empty

theorem ProtocolFault.message_ne_empty (f : ProtocolFault) : f.message ≠ "" := by
  cases f with
  | oversized limit => exact append_ne_right (by decide)
  | notUtf8 fault => exact append_ne_left (by decide)
  | notDocument fault => exact append_ne_left (by decide)
  | notObject got => exact append_ne_left (by decide)
  | noSuccess => decide
  | badMessage => decide
  | listNotArray got => exact append_ne_left (by decide)
  | statusNotObject got => exact append_ne_left (by decide)
  | entriesNotArray got => exact append_ne_left (by decide)
  | field fault => exact fault.message_ne_empty
  | entry fault => exact fault.message_ne_empty
  | skipped what fault => exact append_ne_left (append_ne_right (by decide))

theorem ServiceFault.message_ne_empty (f : ServiceFault) : f.message ≠ "" := by
  cases f with
  | call action code =>
    unfold message
    dsimp only
    split
    · decide
    · decide
    · exact append_ne_right (by decide)
    · exact append_ne_left (append_ne_right (by decide))
  | emptyPath => decide
  | unsupportedPlatform => decide
  | notInstalled => decide
  | unexpected operation mishap => exact append_ne_left (append_ne_right (by decide))

theorem Refusal.message_ne_empty {r : Refusal} (h : r ≠ .bySupervisor "") : r.message ≠ "" := by
  cases r with
  | bySupervisor text => exact fun e => h (congrArg _ e)
  | emptyId => decide
  | emptyPath => decide
  | emptyName => decide
  | duplicatePath => decide
  | cannotVerify skipped => exact ofString_ne_empty (append_ne_left (by decide))
  | unexpected operation mishap =>
    exact ofString_ne_empty (append_ne_left (append_ne_right (by decide)))
  | heartbeat inner => exact LooseText.append_ne_left (by decide)
  | noSelfMonitor => decide

/-- **The only error without a message** is a rejection by the supervisor that gives none. -/
theorem Error.message_ne_empty {e : Error} (h : e ≠ .refused (.bySupervisor "")) :
    e.message ≠ "" := by
  cases e with
  | channel fault => exact ofString_ne_empty fault.message_ne_empty
  | protocol fault => exact ofString_ne_empty fault.message_ne_empty
  | refused refusal => exact Refusal.message_ne_empty fun e => h (congrArg _ e)
  | service fault => exact ofString_ne_empty fault.message_ne_empty

/-! ## The words of the supervisor -/

/-- The words of the supervisor in a refusal. -/
def Refusal.words? : Refusal → Option LooseText
  | .bySupervisor text => some text
  | .heartbeat inner => inner.words?
  | _ => none

/-- The words of the supervisor in an error. -/
def Error.words? : Error → Option LooseText
  | .refused refusal => refusal.words?
  | _ => none

theorem Refusal.torn_message_iff {r : Refusal} :
    r.message.Torn ↔ ∃ text ∈ r.words?, text.Torn := by
  have mute {text : String} : (LooseText.ofString text).Torn ↔
      ∃ t ∈ (none : Option LooseText), t.Torn :=
    iff_of_false (LooseText.not_torn_ofString text) nofun
  induction r with
  | bySupervisor text => simp only [message, words?, Option.mem_some_iff, exists_eq_left']
  | heartbeat inner ih =>
    rw [message, LooseText.torn_append, or_iff_right (LooseText.not_torn_ofString _)]
    exact ih
  | _ => exact mute

/-- **Only the words of the supervisor can be torn.** -/
theorem Error.torn_message_iff {e : Error} : e.message.Torn ↔ ∃ text ∈ e.words?, text.Torn := by
  cases e with
  | refused refusal => exact Refusal.torn_message_iff
  | _ => exact iff_of_false (LooseText.not_torn_ofString _) nofun

end Vigil
