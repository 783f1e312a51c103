import Mathlib.Data.List.DropRight
import Vigil.Client.Executable

/-!
# What an executable is called

The name of an executable is read off the last part of its path. A path is taken for a Windows path
or for one with slashes by its text alone, and either way the last part holds no separator of the
two; so a name never does, and it is that of the last part wherever the executable stands.

* `Executable.baseName_plain`: the last part of a path holds no separator.
* `Executable.baseName_windows`, `Executable.baseName_slashes`: the last part of a path of parts.
* `Executable.displayName_portable`: names are well formed, and the same on both kinds of path.
-/

namespace Vigil.Executable

/-! ## The last part of a path -/

section

variable {separates : Char → Bool} {p front base : List Char} {separator : Char}

/-- What stands behind the last separator is all that stands at the end and is none. -/
theorem cut_snd (separates : Char → Bool) (p : List Char) :
    (cut separates p).2 = p.rtakeWhile fun c => !separates c := by
  have suffix := List.rtakeWhile_suffix (fun c => !separates c) p
  rw [cut, List.splitAt_eq, List.suffix_iff_eq_drop.mp suffix]
  simp only [headLength, List.rtakeWhile, List.length_reverse]

/-- No separator stands behind the last one. -/
theorem cut_snd_plain : ∀ c ∈ (cut separates p).2, separates c = false := by
  intro c hc
  rw [cut_snd] at hc
  simpa using List.mem_rtakeWhile_imp hc

theorem cut_snd_subset : (cut separates p).2 ⊆ p := by
  rw [cut_snd]
  exact (List.rtakeWhile_suffix _ _).subset

/-- What holds no separator is its own last part. -/
theorem cut_snd_of_plain (plain : ∀ c ∈ base, separates c = false) :
    (cut separates base).2 = base := by
  rw [cut_snd, List.rtakeWhile_eq_self_iff]
  exact fun c hc => by simp [plain c hc]

/-- What holds no separator and stands behind one is the last part. -/
theorem cut_snd_of_separator (hs : separates separator = true)
    (plain : ∀ c ∈ base, separates c = false) :
    (cut separates (front ++ separator :: base)).2 = base := by
  have passed : ∀ c ∈ base.reverse, (!separates c) = true := fun c hc => by
    simp [plain c (List.mem_reverse.mp hc)]
  rw [cut_snd, List.rtakeWhile, List.reverse_append, List.reverse_cons, List.append_assoc,
    List.takeWhile_append_of_pos passed]
  simp [hs]

/-- A path with neither a backslash nor a colon is none of Windows. -/
theorem isWindows_eq_false (plain : ∀ c ∈ p, c ≠ '\\' ∧ c ≠ ':') : isWindows p = false := by
  have slash : '\\' ∉ p := fun h => (plain '\\' h).1 rfl
  have colon : p[1]? ≠ some ':' := fun h => (plain ':' (List.mem_of_getElem? h)).2 rfl
  simp [isWindows, slash, colon]

end

theorem isSeparator_eq_false {c : Char} : isSeparator c = false ↔ c ≠ '/' ∧ c ≠ '\\' := by
  simp [isSeparator, and_comm]

/-- The drive of a path with a colon as its second character ends there. -/
theorem driveLength_letter (drive : Char) (rest : List Char) :
    driveLength (drive :: ':' :: rest) = 2 := by
  by_cases h : drive = '/' <;> simp [driveLength, h]

theorem baseName_of_windows {p : List Char} (h : isWindows p = true) :
    baseName p = (cut isSeparator (p.drop (driveLength p))).2 := by
  simp only [baseName, split, h, if_true, List.splitAt_eq]

theorem baseName_of_slashes {p : List Char} (h : isWindows p = false) :
    baseName p = (cut (· = '/') p).2 := by
  simp only [baseName, split, h, Bool.false_eq_true, if_false]

/-- **The last part of a path holds no separator**, neither of its own kind of path nor of the
other. -/
theorem baseName_plain (p : List Char) : ∀ c ∈ baseName p, c ≠ '/' ∧ c ≠ '\\' := by
  intro c hc
  cases h : isWindows p with
  | true =>
    rw [baseName_of_windows h] at hc
    exact isSeparator_eq_false.mp (cut_snd_plain c hc)
  | false =>
    rw [baseName_of_slashes h] at hc
    have foreign : '\\' ∉ p := fun hp => by simp [isWindows, hp] at h
    exact ⟨by simpa using cut_snd_plain c hc, fun e => foreign (e ▸ cut_snd_subset hc)⟩

/-! ## Paths made of parts -/

/-- The text holds no character that means something in a path. -/
def IsPart (s : String) : Prop := ∀ c ∈ s.toList, c ≠ '/' ∧ c ≠ '\\' ∧ c ≠ ':'

instance : DecidablePred IsPart := fun s => List.decidableBAll _ s.toList

/-- Parts one after the other, each behind a separator. -/
def rooted (separator : Char) (parts : List String) : List Char :=
  parts.flatMap fun part => separator :: part.toList

/-- The Windows path of a drive, directories and a last part. -/
def windowsPath (drive : Char) (directories : List String) (base : String) : String :=
  String.ofList (drive :: ':' :: rooted '\\' (directories ++ [base]))

/-- The path with slashes of directories and a last part. -/
def slashPath (directories : List String) (base : String) : String :=
  String.ofList (rooted '/' (directories ++ [base]))

section

variable {drive : Char} {directories : List String} {base : String}

theorem rooted_concat (separator : Char) (directories : List String) (base : String) :
    rooted separator (directories ++ [base]) =
      rooted separator directories ++ separator :: base.toList := by
  simp [rooted]

theorem baseName_windows (part : IsPart base) :
    baseName (windowsPath drive directories base).toList = base.toList := by
  have plain : ∀ c ∈ base.toList, isSeparator c = false := fun c hc =>
    isSeparator_eq_false.mpr ⟨(part c hc).1, (part c hc).2.1⟩
  rw [windowsPath, String.toList_ofList, baseName_of_windows (by simp [isWindows]),
    driveLength_letter, rooted_concat]
  exact cut_snd_of_separator rfl plain

theorem baseName_slashes (parts : ∀ part ∈ base :: directories, IsPart part) :
    baseName (slashPath directories base).toList = base.toList := by
  have within : ∀ c ∈ rooted '/' (directories ++ [base]), c ≠ '\\' ∧ c ≠ ':' := by
    intro c hc
    obtain ⟨part, hpart, hc⟩ := List.mem_flatMap.mp hc
    have member : part ∈ base :: directories := by simpa [or_comm] using hpart
    rcases List.mem_cons.mp hc with rfl | hc
    · decide
    · exact (parts part member c hc).2
  rw [slashPath, String.toList_ofList, baseName_of_slashes (isWindows_eq_false within),
    rooted_concat]
  exact cut_snd_of_separator rfl fun c hc => by simp [(parts base List.mem_cons_self c hc).1]

theorem baseName_base (part : IsPart base) : baseName base.toList = base.toList := by
  rw [baseName_of_slashes (isWindows_eq_false fun c hc => (part c hc).2)]
  exact cut_snd_of_plain fun c hc => by simp [(part c hc).1]

end

/-! ## Names -/

theorem stem_subset (name : List Char) : stem name ⊆ name := by
  unfold stem
  split
  · exact List.nil_subset _
  · dsimp only
    split
    · exact List.Subset.refl _
    · exact List.take_subset _ _

/-- The extension behind the last point is no part of the name. -/
theorem stem_extension {name extension : List Char} (given : name ≠ []) (ends : extension ≠ [])
    (plain : '.' ∉ extension) : stem (name ++ '.' :: extension) = name := by
  have passed : ∀ c ∈ extension.reverse, decide (c ≠ '.') = true := fun c hc =>
    decide_eq_true fun e => plain (e ▸ List.mem_reverse.mp hc)
  have behind : ((name ++ '.' :: extension).reverse.takeWhile (· ≠ '.')) = extension.reverse := by
    rw [List.reverse_append, List.reverse_cons, List.append_assoc,
      List.takeWhile_append_of_pos passed]
    simp
  have before : (name ++ '.' :: extension).length - extension.length = name.length + 1 := by
    simp only [List.length_append, List.length_cons]
    omega
  have proper : name ++ '.' :: extension ≠ ['.'] := by
    cases name with
    | nil => exact absurd rfl given
    | cons c name => simp
  have some : name.length ≠ 0 := by simpa using given
  have more : extension.length ≠ 0 := by simpa using ends
  unfold stem
  dsimp only
  rw [if_neg proper, behind, List.length_reverse, before, if_neg (by omega)]
  exact List.take_left

/-- A name is told by the last part of the path. -/
theorem displayName_congr {path other : String}
    (h : baseName path.toList = baseName other.toList) : displayName path = displayName other := by
  simp only [displayName, h]

/-- A name is the default one, or the characters of the last part without the extension. -/
theorem displayName_cases (path : String) :
    displayName path = defaultName ∨
      displayName path ≠ "" ∧ (displayName path).toList = stem (baseName path.toList) := by
  unfold displayName
  dsimp only
  split
  next => exact .inl rfl
  next given =>
    refine .inr ⟨fun empty => given ?_, String.toList_ofList⟩
    simpa using congrArg String.toList empty

theorem displayName_extension {name extension : String} (hname : IsPart name) (given : name ≠ "")
    (hextension : IsPart extension) (ends : extension ≠ "") (plain : '.' ∉ extension.toList) :
    displayName (name ++ "." ++ extension) = name := by
  have text : (name ++ "." ++ extension).toList = name.toList ++ '.' :: extension.toList := by
    simp
  have part : IsPart (name ++ "." ++ extension) := by
    intro c hc
    rw [text, List.mem_append, List.mem_cons] at hc
    obtain hc | rfl | hc := hc
    · exact hname c hc
    · decide
    · exact hextension c hc
  have some : name.toList ≠ [] := by simpa using given
  rw [displayName, baseName_base part, text, stem_extension some (by simpa using ends) plain]
  simp [given]

/-- **Names are well formed and portable.** A name is never empty and holds no separator. That of a
last part without separators and colons is the same where the path has a drive and backslashes,
where it has slashes, and where it has nothing but the last part; and there it is all that stands
before the extension. -/
theorem displayName_portable :
    (∀ path, displayName path ≠ "" ∧ ∀ c ∈ (displayName path).toList, c ≠ '/' ∧ c ≠ '\\') ∧
    (∀ drive directories base, (∀ part ∈ base :: directories, IsPart part) →
      displayName (windowsPath drive directories base) = displayName base ∧
      displayName (slashPath directories base) = displayName base) ∧
    ∀ name extension, IsPart name → IsPart extension → name ≠ "" → extension ≠ "" →
      '.' ∉ extension.toList → displayName (name ++ "." ++ extension) = name := by
  refine ⟨fun path => ?_, fun drive directories base parts => ?_,
    fun name extension hname hextension given ends plain =>
      displayName_extension hname given hextension ends plain⟩
  · obtain h | ⟨given, h⟩ := displayName_cases path
    · have part : IsPart defaultName := by decide
      rw [h]
      exact ⟨by decide, fun c hc => ⟨(part c hc).1, (part c hc).2.1⟩⟩
    · rw [h]
      exact ⟨given, fun c hc => baseName_plain _ c (stem_subset _ hc)⟩
  · have part : IsPart base := parts base List.mem_cons_self
    have alone := baseName_base part
    exact ⟨displayName_congr ((baseName_windows part).trans alone.symm),
      displayName_congr ((baseName_slashes parts).trans alone.symm)⟩

/-- The name of a service that stands two directories deep, on a drive and elsewhere. -/
theorem displayName_portable_of_service :
    (∀ part ∈ ["my.service.exe", "Program Files", "My App"], IsPart part) ∧
    '.' ∉ "exe".toList ∧
    displayName "C:\\Program Files\\My App\\my.service.exe" = "my.service" ∧
    displayName "/Program Files/My App/my.service.exe" = "my.service" := by
  have parts : ∀ part ∈ ["my.service.exe", "Program Files", "My App"], IsPart part := by decide
  have plain : '.' ∉ "exe".toList := by decide
  obtain ⟨-, same, before⟩ := displayName_portable
  have places := same 'C' ["Program Files", "My App"] "my.service.exe" parts
  have name : displayName "my.service.exe" = "my.service" :=
    before "my.service" "exe" (by decide) (by decide) (by decide) (by decide) plain
  rw [name] at places
  exact ⟨parts, plain, places⟩

end Vigil.Executable
