import PeakSlowness.Text.Utf8

set_option autoImplicit false

/-!
The reader of UTF-8 and its writer. `Reads` is what a run of the reader comes to, without the
offsets that only messages need. It can be cut anywhere, and it succeeds exactly on what the writer
gives: whole characters and the beginning of one more.
-/

namespace PeakSlowness.Text.Utf8

/-- Octets after an unfinished character: the characters that they complete, and the one they
leave. -/
inductive Reads : Begun → List UInt8 → List Char → Begun → Prop
  | nil {s : Begun} : Reads s [] [] s
  | char {s last : Begun} {b : UInt8} {c : Char} {rest : List UInt8} {text : List Char} :
      s.step b = .char c → Reads .none rest text last → Reads s (b :: rest) (c :: text) last
  | more {s next last : Begun} {b : UInt8} {rest : List UInt8} {text : List Char} :
      s.step b = .more next → Reads next rest text last → Reads s (b :: rest) text last

theorem decodePiece_eq_ok_iff {s last : Begun} {offset : Nat} {octets : List UInt8}
    {text : List Char} :
    decodePiece s offset octets = .ok (text, last) ↔ Reads s octets text last := by
  constructor
  · intro h
    induction octets generalizing s offset text with
    | nil =>
      cases h
      exact .nil
    | cons b rest ih =>
      rw [decodePiece] at h
      cases hs : s.step b with
      | char c =>
        simp only [hs, bind, Except.bind, pure, Except.pure] at h
        cases hr : decodePiece .none (offset + s.octets.length + 1) rest with
        | error fault => simp [hr] at h
        | ok read =>
          simp only [hr, Except.ok.injEq, Prod.mk.injEq] at h
          obtain ⟨rfl, rfl⟩ := h
          exact .char hs (ih hr)
      | more next =>
        simp only [hs] at h
        exact .more hs (ih h)
      | bad =>
        simp only [hs] at h
        split at h <;> cases h
  · intro h
    induction h generalizing offset with
    | nil => rfl
    | char hs _ ih => simp only [decodePiece, hs, ih, bind, Except.bind, pure, Except.pure]
    | more hs _ ih => simp only [decodePiece, hs, ih]

namespace Reads

theorem append {s mid last : Begun} {first second : List UInt8} {before after : List Char}
    (h : Reads s first before mid) (h' : Reads mid second after last) :
    Reads s (first ++ second) (before ++ after) last := by
  induction h with
  | nil => exact h'
  | char hs _ ih => exact .char hs (ih h')
  | more hs _ ih => exact .more hs (ih h')

theorem split {s last : Begun} {first second : List UInt8} {text : List Char}
    (h : Reads s (first ++ second) text last) :
    ∃ before mid after, Reads s first before mid ∧ Reads mid second after last ∧
      text = before ++ after := by
  induction first generalizing s text with
  | nil => exact ⟨[], s, text, .nil, h, rfl⟩
  | cons b rest ih =>
    cases h with
    | char hs hr =>
      obtain ⟨before, mid, after, hb, ha, rfl⟩ := ih hr
      exact ⟨_ :: before, mid, after, .char hs hb, ha, rfl⟩
    | more hs hr =>
      obtain ⟨before, mid, after, hb, ha, rfl⟩ := ih hr
      exact ⟨before, mid, after, .more hs hb, ha, rfl⟩

theorem functional {s last last' : Begun} {octets : List UInt8} {text text' : List Char}
    (h : Reads s octets text last) (h' : Reads s octets text' last') :
    text = text' ∧ last = last' := by
  induction h generalizing text' with
  | nil =>
    cases h'
    exact ⟨rfl, rfl⟩
  | char hs _ ih =>
    cases h' with
    | char hs' hr' =>
      obtain rfl : _ = _ := Step.char.inj (hs.symm.trans hs')
      obtain ⟨rfl, rfl⟩ := ih hr'
      exact ⟨rfl, rfl⟩
    | more hs' _ => simp [hs] at hs'
  | more hs _ ih =>
    cases h' with
    | char hs' _ => simp [hs] at hs'
    | more hs' hr' =>
      obtain rfl : _ = _ := Step.more.inj (hs.symm.trans hs')
      exact ih hr'

end Reads

/-- Whatever completes a character begun, by so many octets of which the first lies within the
bounds, the character is written as the octets so far and these. -/
def Completes (octets : List UInt8) (bits : Nat) : Nat → Nat → Nat → Prop
  | 0, _, _ => encodeChar (Char.ofNat bits) = octets
  | owed + 1, low, high => ∀ b : UInt8, low ≤ b.toNat → b.toNat ≤ high →
      Completes (octets ++ [b]) (64 * bits + (b.toNat - 0x80)) owed 0x80 0xBF

/-- A character begun as the writer begins one. -/
def Begun.Sound (s : Begun) : Prop :=
  if s.owed = 0 then s.octets = [] else Completes s.octets s.bits s.owed s.low s.high

theorem sound_none : Begun.none.Sound := rfl

theorem sound_owing {octets : List UInt8} {bits owed low high : Nat}
    (h : Completes octets bits (owed + 1) low high) :
    Begun.Sound ⟨octets, bits, owed + 1, low, high⟩ := h

theorem toNat_ofNat {n : Nat} (h : n.isValidChar) : (Char.ofNat n).toNat = n := by
  unfold Char.ofNat
  rw [dif_pos h]
  rfl

theorem octet_eq {n : Nat} {b : UInt8} (h : n = b.toNat) : UInt8.ofNat n = b := by
  rw [h, UInt8.ofNat_toNat]

theorem completes_two {b : UInt8} (hl : 0xC2 ≤ b.toNat) (hh : b.toNat ≤ 0xDF) :
    Completes [b] (b.toNat - 0xC0) 1 0x80 0xBF := by
  intro x _ _
  have valid : (64 * (b.toNat - 0xC0) + (x.toNat - 0x80)).isValidChar := .inl (by omega)
  simp only [Completes, encodeChar, toNat_ofNat valid]
  rw [if_neg (by omega), if_pos (by omega), octet_eq (b := b) (by omega),
    octet_eq (b := x) (by omega)]
  rfl

theorem completes_three {b : UInt8} {low high : Nat} (hl : 0xE0 ≤ b.toNat) (hh : b.toNat ≤ 0xEF)
    (hlow : 0x80 ≤ low ∧ (b.toNat = 0xE0 → 0xA0 ≤ low))
    (hhigh : high ≤ 0xBF ∧ (b.toNat = 0xED → high ≤ 0x9F)) :
    Completes [b] (b.toNat - 0xE0) 2 low high := by
  intro x _ _ y _ _
  have valid : (64 * (64 * (b.toNat - 0xE0) + (x.toNat - 0x80)) +
      (y.toNat - 0x80)).isValidChar := by
    unfold Nat.isValidChar
    omega
  simp only [Completes, encodeChar, toNat_ofNat valid]
  rw [if_neg (by omega), if_neg (by omega), if_pos (by omega), octet_eq (b := b) (by omega),
    octet_eq (b := x) (by omega), octet_eq (b := y) (by omega)]
  rfl

theorem completes_four {b : UInt8} {low high : Nat} (hl : 0xF0 ≤ b.toNat) (hh : b.toNat ≤ 0xF4)
    (hlow : 0x80 ≤ low ∧ (b.toNat = 0xF0 → 0x90 ≤ low))
    (hhigh : high ≤ 0xBF ∧ (b.toNat = 0xF4 → high ≤ 0x8F)) :
    Completes [b] (b.toNat - 0xF0) 3 low high := by
  intro x _ _ y _ _ z _ _
  have valid : (64 * (64 * (64 * (b.toNat - 0xF0) + (x.toNat - 0x80)) + (y.toNat - 0x80)) +
      (z.toNat - 0x80)).isValidChar := by
    unfold Nat.isValidChar
    omega
  simp only [Completes, encodeChar, toNat_ofNat valid]
  rw [if_neg (by omega), if_neg (by omega), if_neg (by omega), octet_eq (b := b) (by omega),
    octet_eq (b := x) (by omega), octet_eq (b := y) (by omega), octet_eq (b := z) (by omega)]
  rfl

theorem encodeChar_of_first {b : UInt8} {c : Char} (h : first b = .char c) :
    encodeChar c = [b] := by
  simp only [first] at h
  split at h
  · cases h
    have valid : b.toNat.isValidChar := .inl (by omega)
    simp only [encodeChar, toNat_ofNat valid]
    rw [if_pos (by omega), UInt8.ofNat_toNat]
  · (repeat' split at h) <;> cases h

theorem sound_of_first {b : UInt8} {next : Begun} (h : first b = .more next) :
    next.octets = [b] ∧ next.Sound := by
  simp only [first] at h
  split at h
  · cases h
  split at h
  · cases h
  split at h
  · cases h
    exact ⟨rfl, sound_owing (completes_two (by omega) (by omega))⟩
  split at h
  · cases h
    exact ⟨rfl, sound_owing
      (completes_three (by omega) (by omega) (by split <;> omega) (by split <;> omega))⟩
  split at h
  · cases h
    exact ⟨rfl, sound_owing
      (completes_four (by omega) (by omega) (by split <;> omega) (by split <;> omega))⟩
  · cases h

/-- A character that is completed is the one whose octets have been read. -/
theorem Begun.Sound.encodeChar_of_step {s : Begun} (h : s.Sound) {b : UInt8} {c : Char}
    (hs : s.step b = .char c) : encodeChar c = s.octets ++ [b] := by
  obtain ⟨octets, bits, owed, low, high⟩ := s
  cases owed with
  | zero =>
    obtain rfl : octets = [] := h
    exact encodeChar_of_first hs
  | succ owed =>
    simp only [Begun.step] at hs
    split at hs
    · next within =>
      split at hs
      · next last =>
        subst last
        obtain rfl := Step.char.inj hs
        have completes : Completes octets bits 1 low high := h
        simpa only [Completes] using completes b within.1 within.2
      · cases hs
    · split at hs <;> cases hs

theorem Begun.Sound.of_step {s : Begun} (h : s.Sound) {b : UInt8} {next : Begun}
    (hs : s.step b = .more next) : next.octets = s.octets ++ [b] ∧ next.Sound := by
  obtain ⟨octets, bits, owed, low, high⟩ := s
  cases owed with
  | zero =>
    obtain rfl : octets = [] := h
    exact sound_of_first hs
  | succ owed =>
    simp only [Begun.step] at hs
    split at hs
    · next within =>
      split at hs
      · cases hs
      · next unfinished =>
        cases hs
        refine ⟨rfl, ?_⟩
        obtain ⟨k, rfl⟩ := Nat.exists_eq_succ_of_ne_zero unfinished
        exact sound_owing (h b within.1 within.2)
    · split at hs
      · next half =>
        cases hs
        refine ⟨by rw [half.1]; rfl, ?_⟩
        -- no octet lies within the bounds of a surrogate half
        intro x hl hh
        have : (1 : Nat) ≤ 0 := Nat.le_trans hl hh
        omega
      · cases hs

/-- What has been read is what the writer gives for the text, and the octets of the unfinished
character. -/
theorem Reads.encode_append {s last : Begun} {octets : List UInt8} {text : List Char}
    (h : Reads s octets text last) (hs : s.Sound) :
    s.octets ++ octets = encode text ++ last.octets ∧ last.Sound := by
  induction h with
  | nil => exact ⟨by simp [encode], hs⟩
  | @char s last b c rest text step _ ih =>
    obtain ⟨written, sound⟩ := ih sound_none
    refine ⟨?_, sound⟩
    calc
      s.octets ++ b :: rest = (s.octets ++ [b]) ++ (Begun.none.octets ++ rest) := by
        simp [Begun.none]
      _ = encodeChar c ++ (encode text ++ last.octets) := by
        rw [hs.encodeChar_of_step step, written]
      _ = encode (c :: text) ++ last.octets := by simp [encode]
  | @more s next last b rest text step _ ih =>
    obtain ⟨grown, sound⟩ := hs.of_step step
    obtain ⟨written, sound⟩ := ih sound
    refine ⟨?_, sound⟩
    rw [← written, grown, List.append_assoc, List.singleton_append]

theorem toNat_ofNat_octet {n : Nat} (h : n < 256) : (UInt8.ofNat n).toNat = n := by
  rw [UInt8.toNat_ofNat', Nat.mod_eq_of_lt h]

theorem toNat_of_mem_encodeChar {c : Char} {b : UInt8} (h : b ∈ encodeChar c)
    (ascii : b.toNat < 0x80) : c.toNat = b.toNat := by
  have valid : c.toNat < 0xD800 ∨ 0xDFFF < c.toNat ∧ c.toNat < 0x110000 := c.valid
  simp only [encodeChar] at h
  split at h
  · obtain rfl := List.mem_singleton.1 h
    rw [toNat_ofNat_octet (by omega)]
  -- the octets of the other characters are none of the first 128
  · exfalso
    have high : ∀ n, 0x80 ≤ n → n < 0x100 → b ≠ UInt8.ofNat n := by
      rintro n hl hh rfl
      rw [toNat_ofNat_octet hh] at ascii
      omega
    split at h
    · simp only [List.mem_cons, List.not_mem_nil, or_false] at h
      rcases h with h | h <;> exact high _ (by omega) (by omega) h
    split at h
    · simp only [List.mem_cons, List.not_mem_nil, or_false] at h
      rcases h with h | h | h <;> exact high _ (by omega) (by omega) h
    · simp only [List.mem_cons, List.not_mem_nil, or_false] at h
      rcases h with h | h | h | h <;> exact high _ (by omega) (by omega) h

theorem encode_replicate (n : Nat) (c : Char) (b : UInt8) (one : encodeChar c = [b]) :
    encode (List.replicate n c) = List.replicate n b := by
  rw [encode, List.flatMap_replicate, one, List.flatten_replicate_singleton]

theorem first_one {n : Nat} (h : n ≤ 0x7F) : first (UInt8.ofNat n) = .char (Char.ofNat n) := by
  simp only [first, toNat_ofNat_octet (n := n) (by omega)]
  rw [if_pos h]

theorem first_two {n : Nat} (hl : 2 ≤ n) (hh : n < 0x20) :
    first (UInt8.ofNat (0xC0 + n)) = .more ⟨[UInt8.ofNat (0xC0 + n)], n, 1, 0x80, 0xBF⟩ := by
  simp only [first, toNat_ofNat_octet (n := 0xC0 + n) (by omega)]
  rw [if_neg (by omega), if_neg (by omega), if_pos (by omega), Nat.add_sub_cancel_left]

theorem first_three {n : Nat} (h : n < 0x10) :
    first (UInt8.ofNat (0xE0 + n)) = .more ⟨[UInt8.ofNat (0xE0 + n)], n, 2,
      if n = 0 then 0xA0 else 0x80, if n = 0xD then 0x9F else 0xBF⟩ := by
  simp only [first, toNat_ofNat_octet (n := 0xE0 + n) (by omega)]
  rw [if_neg (by omega), if_neg (by omega), if_neg (by omega), if_pos (by omega),
    Nat.add_sub_cancel_left]
  simp only [show 0xE0 + n = 0xE0 ↔ n = 0 by omega, show 0xE0 + n = 0xED ↔ n = 0xD by omega]

theorem first_four {n : Nat} (h : n ≤ 4) :
    first (UInt8.ofNat (0xF0 + n)) = .more ⟨[UInt8.ofNat (0xF0 + n)], n, 3,
      if n = 0 then 0x90 else 0x80, if n = 4 then 0x8F else 0xBF⟩ := by
  simp only [first, toNat_ofNat_octet (n := 0xF0 + n) (by omega)]
  rw [if_neg (by omega), if_neg (by omega), if_neg (by omega), if_neg (by omega), if_pos (by omega),
    Nat.add_sub_cancel_left]
  simp only [show 0xF0 + n = 0xF0 ↔ n = 0 by omega, show 0xF0 + n = 0xF4 ↔ n = 4 by omega]

theorem step_more {octets : List UInt8} {bits owed low high n : Nat} (small : n < 0x40)
    (hl : low ≤ 0x80 + n) (hh : 0x80 + n ≤ high) :
    Begun.step ⟨octets, bits, owed + 2, low, high⟩ (UInt8.ofNat (0x80 + n)) =
      .more ⟨octets ++ [UInt8.ofNat (0x80 + n)], 64 * bits + n, owed + 1, 0x80, 0xBF⟩ := by
  simp only [Begun.step, toNat_ofNat_octet (n := 0x80 + n) (by omega)]
  rw [if_pos ⟨hl, hh⟩, if_neg (by omega), Nat.add_sub_cancel_left]

theorem step_char {octets : List UInt8} {bits low high n : Nat} (small : n < 0x40)
    (hl : low ≤ 0x80 + n) (hh : 0x80 + n ≤ high) :
    Begun.step ⟨octets, bits, 1, low, high⟩ (UInt8.ofNat (0x80 + n)) =
      .char (Char.ofNat (64 * bits + n)) := by
  simp only [Begun.step, toNat_ofNat_octet (n := 0x80 + n) (by omega)]
  rw [if_pos ⟨hl, hh⟩, if_pos trivial, Nat.add_sub_cancel_left]

theorem ofNat_eq_of_toNat {c : Char} {n : Nat} (h : n = c.toNat) : Char.ofNat n = c := by
  rw [h, Char.ofNat_toNat]

theorem reads_encodeChar (c : Char) : Reads .none (encodeChar c) [c] .none := by
  have valid : c.toNat < 0xD800 ∨ 0xDFFF < c.toNat ∧ c.toNat < 0x110000 := c.valid
  simp only [encodeChar]
  split
  · refine .char (Eq.trans (first_one (by assumption)) ?_) .nil
    rw [Char.ofNat_toNat]
  split
  · refine .more (first_two (by omega) (by omega)) (.char ?_ .nil)
    rw [step_char (by omega) (by omega) (by omega), ofNat_eq_of_toNat (c := c) (by omega)]
  split
  · refine .more (first_three (by omega)) (.more (step_more (by omega) ?_ ?_) (.char ?_ .nil))
    · split <;> omega
    · split <;> omega
    · rw [step_char (by omega) (by omega) (by omega), ofNat_eq_of_toNat (c := c) (by omega)]
  · refine .more (first_four (by omega)) (.more (step_more (by omega) ?_ ?_)
      (.more (step_more (by omega) (by omega) (by omega)) (.char ?_ .nil)))
    · split <;> omega
    · split <;> omega
    · rw [step_char (by omega) (by omega) (by omega), ofNat_eq_of_toNat (c := c) (by omega)]

theorem reads_encode (text : List Char) : Reads .none (encode text) text .none := by
  induction text with
  | nil => exact .nil
  | cons c rest ih => exact (reads_encodeChar c).append ih

/-- Octets are the writing of a text exactly if reading them ends between two characters. -/
theorem eq_encode_iff {octets : List UInt8} {text : List Char} :
    octets = encode text ↔ ∃ last, Reads .none octets text last ∧ last.owed = 0 := by
  constructor
  · rintro rfl
    exact ⟨.none, reads_encode text, rfl⟩
  · rintro ⟨last, read, complete⟩
    obtain ⟨written, sound⟩ := read.encode_append sound_none
    rw [Begun.Sound, if_pos complete] at sound
    rwa [sound, List.append_nil] at written

/-- Decoding undoes encoding, and takes nothing else. -/
theorem decode_eq_ok_iff {octets : List UInt8} {text : List Char} :
    decode octets = .ok text ↔ octets = encode text := by
  rw [eq_encode_iff]
  simp only [decode, bind, Except.bind, pure, Except.pure]
  constructor
  · intro h
    cases hr : decodePiece .none 0 octets with
    | error fault => simp [hr] at h
    | ok read =>
      obtain ⟨text', last⟩ := read
      by_cases complete : last.owed = 0
      · simp only [hr, Begun.finish, complete, if_true, Except.ok.injEq] at h
        exact ⟨last, decodePiece_eq_ok_iff.1 (h ▸ hr), complete⟩
      · simp [hr, Begun.finish, complete] at h
  · rintro ⟨last, read, complete⟩
    simp only [decodePiece_eq_ok_iff.2 read, Begun.finish, complete, if_true]

theorem prefix_of_encode_prefix {octets : List UInt8} {text longer : List Char} {last : Begun}
    (h : Reads .none octets longer last) (h' : encode text <+: octets) : text <+: longer := by
  obtain ⟨rest, rfl⟩ := h'
  obtain ⟨before, mid, after, hb, -, rfl⟩ := h.split
  obtain ⟨rfl, -⟩ := hb.functional (reads_encode text)
  exact List.prefix_append ..

/-- The text that octets begin with: the longest one whose octets they begin with. Behind it there
are no more octets, or some that are no character. -/
structure Leads (octets : List UInt8) (text : List Char) : Prop where
  written : encode text <+: octets
  longest : ∀ other, encode other <+: octets → other <+: text

theorem Reads.prefix_of_leads {octets first : List UInt8} {text whole : List Char} {last : Begun}
    (h : Leads octets whole) (hr : Reads .none first text last) (hf : first <+: octets) :
    text <+: whole := by
  apply h.longest
  have written : first = encode text ++ last.octets := (hr.encode_append sound_none).1
  exact (written ▸ List.prefix_append ..).trans hf

/-- Reading goes on to the end or up to an octet that does not fit. -/
theorem exists_reads_up_to (s : Begun) (octets : List UInt8) :
    ∃ first rest text last, octets = first ++ rest ∧ Reads s first text last ∧
      ∀ b more, rest = b :: more → last.step b = .bad := by
  induction octets generalizing s with
  | nil => exact ⟨[], [], [], s, rfl, .nil, by simp⟩
  | cons b octets ih =>
    cases hs : s.step b with
    | char c =>
      obtain ⟨first, rest, text, last, rfl, hr, hb⟩ := ih .none
      exact ⟨b :: first, rest, c :: text, last, rfl, .char hs hr, hb⟩
    | more next =>
      obtain ⟨first, rest, text, last, rfl, hr, hb⟩ := ih next
      exact ⟨b :: first, rest, text, last, rfl, .more hs hr, hb⟩
    | bad =>
      refine ⟨[], b :: octets, [], s, rfl, .nil, ?_⟩
      rintro _ _ ⟨⟩
      exact hs

theorem exists_leads (octets : List UInt8) : ∃ text, Leads octets text := by
  obtain ⟨first, rest, text, last, rfl, hr, hb⟩ := exists_reads_up_to .none octets
  have written : first = encode text ++ last.octets := (hr.encode_append sound_none).1
  refine ⟨text, ⟨?_, ?_⟩⟩
  · rw [written, List.append_assoc]
    exact List.prefix_append ..
  · intro other ho
    rcases List.prefix_or_prefix_of_prefix ho (List.prefix_append first rest) with shorter | longer
    · exact prefix_of_encode_prefix hr shorter
    · -- a text that goes on behind `first` would have the octet that does not fit
      obtain ⟨tail, ht⟩ := longer
      have read := reads_encode other
      rw [← ht] at read
      obtain ⟨before, mid, after, hfirst, hrest, rfl⟩ := read.split
      obtain ⟨rfl, rfl⟩ := hfirst.functional hr
      have htail : tail <+: rest := by
        rw [← ht] at ho
        exact (List.prefix_append_right_inj first).1 ho
      cases hrest with
      | nil => simp
      | char hs _ =>
        obtain ⟨more, rfl⟩ := htail
        simp [hb _ _ rfl] at hs
      | more hs _ =>
        obtain ⟨more, rfl⟩ := htail
        simp [hb _ _ rfl] at hs

end PeakSlowness.Text.Utf8
