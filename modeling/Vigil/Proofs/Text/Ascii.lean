import Vigil.Text.Utf8

/-!
# ASCII

The UTF-8 bytes of a text in ASCII are the numbers of its characters.

* `decodeUtf8_encodeUtf8`: they are decoded to the text.
-/

namespace Vigil.Text

/-- Every character of a text is in ASCII. -/
def Ascii (s : List Char) : Prop := ∀ c ∈ s, c.toNat < 0x80

theorem encodeUtf8_of_ascii {s : List Char} (h : Ascii s) :
    encodeUtf8 s = s.map fun c => UInt8.ofNat c.toNat := by
  induction s with
  | nil => rfl
  | cons c s ih =>
    have byte : encodeChar c = [UInt8.ofNat c.toNat] := if_pos (h c List.mem_cons_self)
    rw [encodeUtf8, List.flatMap_cons, byte, ← encodeUtf8,
      ih fun d hd => h d (List.mem_cons_of_mem _ hd)]
    rfl

theorem toNat_ofNat_of_ascii {c : Char} (h : c.toNat < 0x80) :
    (UInt8.ofNat c.toNat).toNat = c.toNat := by
  rw [UInt8.toNat_ofNat']
  omega

/-- A text in ASCII is what its bytes number. -/
theorem map_encodeUtf8_of_ascii {s : List Char} (h : Ascii s) :
    (encodeUtf8 s).map (fun b => Char.ofNat b.toNat) = s := by
  rw [encodeUtf8_of_ascii h, List.map_map]
  refine (List.map_congr_left fun c hc => ?_).trans (List.map_id s)
  rw [Function.comp_apply, toNat_ofNat_of_ascii (h c hc), Char.ofNat_toNat]
  rfl

theorem decodeFrom_of_ascii {s : List Char} (h : Ascii s) (position : Nat) (done : List Char) :
    decodeFrom position done none (encodeUtf8 s) = .ok (done.reverse ++ s) := by
  rw [encodeUtf8_of_ascii h]
  induction s generalizing position done with
  | nil => simp [decodeFrom]
  | cons c s ih =>
    have hc := h c List.mem_cons_self
    have small : UInt8.ofNat c.toNat < 0x80 := by
      rw [UInt8.lt_iff_toNat_lt, toNat_ofNat_of_ascii hc]
      exact hc
    rw [List.map_cons, decodeFrom]
    simp only [small, if_true, toNat_ofNat_of_ascii hc, Char.ofNat_toNat]
    rw [ih fun d hd => h d (List.mem_cons_of_mem _ hd)]
    simp

/-- **The bytes of a text in ASCII are decoded to the text.** -/
theorem decodeUtf8_encodeUtf8 {s : List Char} (h : Ascii s) :
    decodeUtf8 (encodeUtf8 s) = .ok s := decodeFrom_of_ascii h 0 []

end Vigil.Text
