import Vigil.Json.Display
import Vigil.Settings.Basic

/-!
# Values from the file of overrides

A value of the file becomes a value of the kind its setting has. What cannot be converted is
refused, which leaves the setting as it is; a number too large for the setting is no refusal but a
mishap.
-/

namespace Vigil

/-- Why a value cannot be converted. -/
inductive ConversionFault where
  | noInteger (text : LooseText)
  | tooManyDigits (digits : Nat)
  | notANumber
  | noNumber (text : LooseText)
  | wrongKind (wanted : SettingKind) (got : Json.Kind)

/-- The fault in words. A text that is no integer is shown up to 200 characters. -/
def ConversionFault.message : ConversionFault → String
  | .noInteger text =>
    s!"invalid literal for int() with base 10: {String.ofList (text.quotedChars.take 200)}"
  | .tooManyDigits digits => Number.tooLongMessage digits
  | .notANumber => Number.NotWhole.notANumber.message
  | .noNumber text => s!"could not convert string to float: {text.quoted}"
  | .wrongKind .whole got =>
    "int() argument must be a string, a bytes-like object or a real number, not " ++
      s!"'{got.label}'"
  | .wrongKind _ got =>
    s!"float() argument must be a string or a real number, not '{got.label}'"

namespace Setting

/-- Converts a value to a whole number. -/
def wholeOf : Json → Except Mishap (Except ConversionFault Setting)
  | .int n => .ok (.ok (.whole n))
  | .bool b => .ok (.ok (.whole (if b then 1 else 0)))
  | .real x =>
    match Number.truncate x with
    | .ok n => .ok (.ok (.whole n))
    | .error .notANumber => .ok (.error .notANumber)
    | .error .infinity => .error (.notWhole .infinity)
  | .text s =>
    match Number.readInteger s.render.toList with
    | .ok n => .ok (.ok (.whole n))
    | .error .malformed => .ok (.error (.noInteger s))
    | .error (.tooLong digits) => .ok (.error (.tooManyDigits digits))
  | value => .ok (.error (.wrongKind .whole value.kind))

/-- Converts a value to seconds. -/
def secondsOf : Json → Except Mishap (Except ConversionFault Setting)
  | .int n =>
    match Number.ofInt? n with
    | some x => .ok (.ok (.seconds x))
    | none => .error .integerTooLarge
  | .bool b => .ok (.ok (.seconds (if b then 1.0 else 0.0)))
  | .real x => .ok (.ok (.seconds x))
  | .text s =>
    match Number.readFloat s.render.toList with
    | some x => .ok (.ok (.seconds x))
    | none => .ok (.error (.noNumber s))
  | value => .ok (.error (.wrongKind .seconds value.kind))

/-- Converts a value to a value of a kind. Every value has a text. -/
def convert : SettingKind → Json → Except Mishap (Except ConversionFault Setting)
  | .whole, value => wholeOf value
  | .seconds, value => secondsOf value
  | .text, value => .ok (.ok (.text value.display))

/-- The text of a value. -/
def display : Setting → String
  | .whole n => toString n
  | .seconds x => Number.plain.render x
  | .text s => s
  | .flag b => (Json.bool b).display
  | .names list => Text.quotedList list

end Setting

end Vigil
