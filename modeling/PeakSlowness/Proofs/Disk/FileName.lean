import PeakSlowness.Disk.FilePath
import PeakSlowness.Proofs.Text.Line
import PeakSlowness.Proofs.Text.Utf8

set_option autoImplicit false

/-!
Names stand for their octets. Octets are read as letters without a loss, whether they are a text or not, and
letters are kept in a string without a loss as well. So two texts of letters are the same name exactly if
they have the same octets, and a text that has no halves is its own name.
-/

namespace PeakSlowness

open Text (Letter Unencodable)
open Text.Utf8 (Begun Reads encode encodeChar sound_none)

theorem Text.Unencodable.isOctet_half_iff {n : Nat} :
    isOctet (.half n) = true ↔ 0xDC80 ≤ n ∧ n ≤ 0xDCFF :=
  Bool.and_eq_true_iff.trans (and_congr decide_eq_true_iff decide_eq_true_iff)

/-- A text of letters has octets as a path exactly if its halves stand for octets. -/
theorem Text.Unencodable.inPath?_eq_none_iff {text : List Letter} :
    inPath? text = none ↔ ∀ n, Letter.half n ∈ text → 0xDC80 ≤ n ∧ n ≤ 0xDCFF := by
  have from_any (position : Nat) : inPathFrom? position text = none ↔
      ∀ n, Letter.half n ∈ text → 0xDC80 ≤ n ∧ n ≤ 0xDCFF := by
    induction text generalizing position with
    | nil => simp [inPathFrom?]
    | cons l rest ih =>
      rw [inPathFrom?]
      cases l with
      | char c => simp [isHalf, ih]
      | half n =>
        cases octet : isOctet (.half n) with
        | false =>
          refine iff_of_false nofun fun octets => ?_
          rw [isOctet_half_iff.2 (octets n List.mem_cons_self)] at octet
          cases octet
        | true =>
          rw [if_neg (by simp), ih]
          constructor
          · intro behind m hm
            rcases List.mem_cons.1 hm with same | hm
            · cases same
              exact isOctet_half_iff.1 octet
            · exact behind m hm
          · exact fun all m hm => all m (List.mem_cons_of_mem _ hm)
  exact from_any 0

namespace FileName

variable {text : List Letter} {begun : Begun} {bytes : List UInt8}

theorem octets_cons (l : Letter) (text : List Letter) : octets (l :: text) = octetsOf l ++ octets text := rfl

theorem octets_append (text more : List Letter) : octets (text ++ more) = octets text ++ octets more :=
  List.flatMap_append

@[simp] theorem octetsOf_halfOf (b : UInt8) : octetsOf (halfOf b) = [b] := by
  rw [halfOf, octetsOf, Nat.add_sub_cancel_left, UInt8.ofNat_toNat]

theorem octets_halves (bytes : List UInt8) : octets (bytes.map halfOf) = bytes := by
  induction bytes with
  | nil => rfl
  | cons b rest ih => rw [List.map_cons, octets_cons, octetsOf_halfOf, ih, List.singleton_append]

/-- What is read behind a character begun has its octets and those read. -/
theorem octets_readOn (sound : begun.Sound) (bytes : List UInt8) :
    octets (readOn begun bytes) = begun.octets ++ bytes := by
  fun_induction readOn begun bytes with
  | case1 begun => rw [octets_halves, List.append_nil]
  | case2 begun b rest c step ih =>
    rw [octets_cons, octetsOf, sound.encodeChar_of_step step, ih sound_none]
    simp [Begun.none]
  | case3 begun b rest next step ih =>
    obtain ⟨grown, sound'⟩ := sound.of_step step
    rw [ih sound', grown, List.append_assoc, List.singleton_append]
  | case4 begun b rest bad ih ih' =>
    rw [octets_append, octets_halves, List.append_cancel_left_eq]
    cases begins : Text.Utf8.first b with
    | char c =>
      dsimp only
      rw [octets_cons, octetsOf, Text.Utf8.encodeChar_of_first begins, ih sound_none]
      rfl
    | more next =>
      obtain ⟨one, sound'⟩ := Text.Utf8.sound_of_first begins
      dsimp only
      rw [ih' next sound', one, List.singleton_append]
    | bad =>
      dsimp only
      rw [octets_cons, octetsOf_halfOf, ih sound_none]
      rfl

/-- No octet is lost in reading. -/
theorem octets_read (bytes : List UInt8) : octets (read bytes) = bytes := octets_readOn sound_none bytes

/-- The halves that octets are read as stand for octets. -/
theorem half_of_mem_readOn {n : Nat} (h : Letter.half n ∈ readOn begun bytes) :
    0xDC00 ≤ n ∧ n < 0xDD00 := by
  have of_octet {b : UInt8} (same : Letter.half n = halfOf b) : 0xDC00 ≤ n ∧ n < 0xDD00 := by
    cases same
    have := b.toNat_lt
    omega
  have of_octets {given : List UInt8} (inside : Letter.half n ∈ given.map halfOf) :
      0xDC00 ≤ n ∧ n < 0xDD00 := by
    obtain ⟨b, -, same⟩ := List.mem_map.1 inside
    exact of_octet same.symm
  fun_induction readOn begun bytes with
  | case1 begun => exact of_octets h
  | case2 begun b rest c step ih => exact ih ((List.mem_cons.1 h).resolve_left nofun)
  | case3 begun b rest next step ih => exact ih h
  | case4 begun b rest bad ih ih' =>
    rcases List.mem_append.1 h with before | behind
    · exact of_octets before
    · cases begins : Text.Utf8.first b with
      | char c =>
        rw [begins] at behind
        exact ih ((List.mem_cons.1 behind).resolve_left nofun)
      | more next =>
        rw [begins] at behind
        exact ih' next behind
      | bad =>
        rw [begins] at behind
        rcases List.mem_cons.1 behind with same | later
        · exact of_octet same
        · exact ih later

/-- Octets that are a text are read as it. -/
theorem readOn_of_reads {last : Begun} {chars : List Char} (h : Reads begun bytes chars last) :
    readOn begun bytes = Letter.ofList chars ++ last.octets.map halfOf := by
  induction h with
  | nil => rfl
  | char step _ ih =>
    rw [readOn, step]
    dsimp only
    rw [ih]
    rfl
  | more step _ ih =>
    rw [readOn, step]
    exact ih

theorem read_encode (chars : List Char) : read (encode chars) = Letter.ofList chars := by
  rw [read, readOn_of_reads (Text.Utf8.reads_encode chars)]
  exact List.append_nil _

/-- Letters are kept in a name, unless one of them is a slash or no half of a pair. -/
theorem letters_ofLetters (no_slash : Letter.char '/' ∉ text)
    (halves : ∀ n, Letter.half n ∈ text → 0xD800 ≤ n ∧ n < 0xE000) : letters (ofLetters text) = text := by
  rw [letters, ofLetters, String.toList_ofList]
  induction text with
  | nil => rfl
  | cons l rest ih =>
    rw [List.mem_cons, not_or] at no_slash
    have behind := ih no_slash.2 fun n hn => halves n (List.mem_cons_of_mem _ hn)
    rw [List.flatMap_cons]
    cases l with
    | char c =>
      have other : c ≠ '/' := fun same => no_slash.1 (congrArg Letter.char same.symm)
      rw [kept, List.singleton_append, lettersOf, behind]
      exact fun _ _ same => absurd same other
    | half n =>
      obtain ⟨low, high⟩ := halves n List.mem_cons_self
      have valid : (n - 0xD000).isValidChar := .inl (by omega)
      have code : 0xD000 + (n - 0xD000) = n := by omega
      rw [kept, List.cons_append, List.singleton_append, lettersOf, behind, Text.Utf8.toNat_ofNat valid, code]

section Named

variable {text' : List Letter}

theorem slash_not_mem_octets (encodable : Unencodable.inPath? text = none)
    (no_slash : Letter.char '/' ∉ text) : (0x2F : UInt8) ∉ octets text := by
  intro inside
  obtain ⟨l, hl, here⟩ := List.mem_flatMap.1 inside
  cases l with
  | char c =>
    have same : c.toNat = '/'.toNat := Text.Utf8.toNat_of_mem_encodeChar here (by decide)
    exact no_slash (Char.toNat_inj.1 same ▸ hl)
  | half n =>
    have octet := Unencodable.inPath?_eq_none_iff.1 encodable n hl
    have same := congrArg UInt8.toNat (List.mem_singleton.1 here)
    rw [Text.Utf8.toNat_ofNat_octet (by omega)] at same
    have : (0x2F : UInt8).toNat = 0x2F := rfl
    omega

/-- A name has the letters that its octets are read as. -/
theorem letters_named (encodable : Unencodable.inPath? text = none) (no_slash : Letter.char '/' ∉ text) :
    letters (named text) = read (octets text) := by
  rw [named, if_pos (by rw [encodable]; rfl)]
  apply letters_ofLetters
  · intro slash
    have octet : (0x2F : UInt8) ∈ octets (read (octets text)) := List.mem_flatMap.2 ⟨_, slash, by decide⟩
    rw [octets_read] at octet
    exact slash_not_mem_octets encodable no_slash octet
  · intro n hn
    have := half_of_mem_readOn hn
    omega

/-- A name has the octets of the letters that it stands for. -/
theorem octets_named (encodable : Unencodable.inPath? text = none) (no_slash : Letter.char '/' ∉ text) :
    octets (letters (named text)) = octets text := by
  rw [letters_named encodable no_slash, octets_read]

/-- Letters are the same name exactly if they have the same octets. -/
theorem named_eq_named_iff (encodable : Unencodable.inPath? text = none)
    (encodable' : Unencodable.inPath? text' = none) (no_slash : Letter.char '/' ∉ text)
    (no_slash' : Letter.char '/' ∉ text') : named text = named text' ↔ octets text = octets text' := by
  constructor
  · intro same
    rw [← octets_named encodable no_slash, same, octets_named encodable' no_slash']
  · intro same
    simp only [named, encodable, encodable', Option.isNone_none, if_true, same]

/-- Two halves that stand for the octets of a character are the name of that character. -/
example : named [.half 0xDCC3, .half 0xDCA9] = "é" := by decide

theorem octets_ofList (chars : List Char) : octets (Letter.ofList chars) = encode chars :=
  List.flatMap_map ..

theorem inPath?_ofList (chars : List Char) : Unencodable.inPath? (Letter.ofList chars) = none := by
  refine Unencodable.inPath?_eq_none_iff.2 fun n hn => ?_
  simp [Letter.ofList] at hn

theorem ofLetters_ofString (name : String) : ofLetters (Letter.ofString name) = name := by
  have chars : (Letter.ofList name.toList).flatMap kept = name.toList := by
    simp [Letter.ofList, List.flatMap_map, kept]
  rw [ofLetters, Letter.ofString, chars, String.ofList_toList]

/-- A text without halves is its own name. -/
theorem named_ofString (name : String) : named (Letter.ofString name) = name := by
  rw [named, Letter.ofString, if_pos (by rw [inPath?_ofList]; rfl), octets_ofList, read_encode]
  exact ofLetters_ofString name

/-- A name without a slash keeps no halves. -/
theorem letters_of_no_slash {name : String} (no_slash : '/' ∉ name.toList) :
    letters name = Letter.ofString name := by
  have kept : letters (ofLetters (Letter.ofString name)) = Letter.ofString name := by
    refine letters_ofLetters ?_ fun n half => ?_
    · simpa [Letter.ofString, Letter.ofList] using no_slash
    · simp [Letter.ofString, Letter.ofList] at half
  rwa [ofLetters_ofString] at kept

theorem octets_of_no_slash {name : String} (no_slash : '/' ∉ name.toList) :
    octets (letters name) = encode name.toList := by
  rw [letters_of_no_slash no_slash, Letter.ofString, octets_ofList]

end Named

end FileName

namespace FilePath

open FileName (octets named)

variable {text : List Letter}

theorem slash_not_mem_letterNames {name : List Letter} (h : name ∈ letterNames text) :
    Letter.char '/' ∉ name :=
  Text.not_mem_of_mem_splitOn (List.mem_filter.1 h).1

/-- The halves in a path are those in its names. -/
theorem half_mem_spelled_iff {n : Nat} {anchor : Anchor} {names : List (List Letter)} :
    Letter.half n ∈ spelled anchor names ↔ ∃ name ∈ names, Letter.half n ∈ name := by
  have between : Letter.half n ∈ [Letter.char '/'].intercalate names ↔
      ∃ name ∈ names, Letter.half n ∈ name := by
    induction names with
    | nil => simp
    | cons first rest ih =>
      cases rest with
      | nil => simp
      | cons second more =>
        rw [List.intercalate_cons_cons, List.mem_append, ih]
        simp
  unfold spelled
  split
  · next empty => simp [empty.2]
  · rw [List.mem_append, between]
    simp [Letter.ofString, Letter.ofList]

theorem inPath?_spelled_iff {anchor : Anchor} {names : List (List Letter)} :
    Unencodable.inPath? (spelled anchor names) = none ↔
      ∀ name ∈ names, Unencodable.inPath? name = none := by
  simp only [Unencodable.inPath?_eq_none_iff, half_mem_spelled_iff]
  exact ⟨fun h name hn n half => h n ⟨name, hn, half⟩, fun h n ⟨name, hn, half⟩ => h name hn n half⟩

/-- A path of letters has the octets of its names, if it has any. -/
theorem octets_ofLetters (h : (ofLetters text).flaw = none) :
    (ofLetters text).parts.map (octets ∘ FileName.letters) = (letterNames text).map octets := by
  rw [ofLetters, List.map_map]
  refine List.map_congr_left fun name hn => ?_
  exact FileName.octets_named (inPath?_spelled_iff.1 h name hn) (slash_not_mem_letterNames hn)

theorem size_ofPlace_singleton (name : String) :
    (ofPlace [name]).size = FileName.size name + 1 := by
  have root : Letter.ofString Anchor.root.toText = [.char '/'] := by decide
  have one : (ofPlace [name]).letters = [.char '/'] ++ FileName.letters name := by
    rw [letters, ofPlace, spelled, if_neg (by simp), List.map_singleton, List.intercalate_singleton, root]
  have slash : FileName.octetsOf (.char '/') = [0x2F] := by decide
  rw [size, one, List.singleton_append, FileName.octets_cons, slash, List.singleton_append, List.length_cons,
    FileName.size]

theorem letterNames_ofString (text : String) :
    letterNames (Letter.ofString text) = (pathNames text.toList).map Letter.ofString := by
  have injective : Letter.char.Injective := fun _ _ same => Letter.char.inj same
  have split : Text.splitOn (.char '/') (Letter.ofString text) =
      (Text.splitOn '/' text.toList).map Letter.ofList := Text.splitOn_map injective '/' text.toList
  have named (part : List Char) : Letter.ofString (String.ofList part) = Letter.ofList part := by
    rw [Letter.ofString, String.toList_ofList]
  have proper (part : List Char) : (!(Letter.ofList part).isEmpty && Letter.ofList part != [.char '.']) =
      (String.ofList part != "" && String.ofList part != ".") := by
    have empty : String.ofList part = "" ↔ part = [] := @String.ofList_inj part []
    have dot : String.ofList part = "." ↔ part = ['.'] := @String.ofList_inj part ['.']
    have no_letters : Letter.ofList part = [] ↔ part = [] := List.map_eq_nil_iff
    have one_dot : Letter.ofList part = [.char '.'] ↔ part = ['.'] := by
      simp [Letter.ofList, List.map_eq_singleton_iff]
    rw [Bool.eq_iff_iff]
    simp [empty, dot, no_letters, one_dot]
  rw [letterNames, split, pathNames, List.filter_map, List.filter_map, List.map_map]
  simp only [Function.comp_def, proper, named]

/-- A text without halves is the same path in letters. -/
theorem ofLetters_ofString (text : String) : ofLetters (Letter.ofString text) = ofString text := by
  have anchor : Letter.blanked (Letter.ofString text) = text.toList := List.map_map.trans (List.map_id _)
  have parts : ((pathNames text.toList).map Letter.ofString).map named = pathNames text.toList := by
    rw [List.map_map]
    exact (List.map_congr_left fun name _ => FileName.named_ofString name).trans (List.map_id _)
  have flaw : Unencodable.inPath?
      (spelled (anchorOf text.toList) ((pathNames text.toList).map Letter.ofString)) = none := by
    refine inPath?_spelled_iff.2 fun name hn => ?_
    obtain ⟨part, -, rfl⟩ := List.mem_map.1 hn
    exact FileName.inPath?_ofList part.toList
  simp only [ofLetters, letterNames_ofString, anchor, parts, flaw]
  rfl

end FilePath

end PeakSlowness
