import ClassSketch.Text.Utf8

set_option autoImplicit false

namespace ClassSketch.Text.Utf8

deriving instance DecidableEq for Pending, Lead

/-- The bytes still owed to a character. -/
inductive Finishes : Pending → List UInt8 → Char → Prop
  | last {pending : Pending} {byte : UInt8} {c : Char} (fits : pending.fits byte = true)
      (whole : pending.push byte = .whole c) : Finishes pending [byte] c
  | more {pending next : Pending} {byte : UInt8} {rest : List UInt8} {c : Char}
      (fits : pending.fits byte = true) (longer : pending.push byte = .more next)
      (later : Finishes next rest c) : Finishes pending (byte :: rest) c

/-- The bytes of one character. -/
inductive Spells : List UInt8 → Char → Prop
  | single {byte : UInt8} {c : Char} (whole : lead byte = .whole c) : Spells [byte] c
  | several {pending : Pending} {byte : UInt8} {rest : List UInt8} {c : Char}
      (longer : lead byte = .more pending) (later : Finishes pending rest c) :
      Spells (byte :: rest) c

variable {pending : Pending} {bytes front back rest : List UInt8} {c : Char}

theorem decodeFrom_finishes (finishes : Finishes pending bytes c) (rest : List UInt8) :
    decodeFrom (some pending) (bytes ++ rest) = c :: decode rest := by
  induction finishes with
  | last fits whole =>
    simp only [List.singleton_append, decodeFrom, fits, whole, ↓reduceIte, decode]
  | more fits longer _ ih => simp only [List.cons_append, decodeFrom, fits, longer, ↓reduceIte, ih]

theorem decode_spells (spells : Spells bytes c) (rest : List UInt8) :
    decode (bytes ++ rest) = c :: decode rest := by
  cases spells with
  | single whole => simp only [List.singleton_append, decode, decodeFrom, whole]
  | several longer later =>
    have finished := decodeFrom_finishes later rest
    simpa only [List.cons_append, decode, decodeFrom, longer] using finished

theorem decodeFrom_unfinished (finishes : Finishes pending (front ++ back) c)
    (missing : back ≠ []) :
    decodeFrom (some pending) front = [replacement] := by
  generalize whole : front ++ back = bytes at finishes
  induction finishes generalizing front with
  | last =>
    cases front with
    | nil => rw [decodeFrom]
    | cons byte front =>
      rw [List.cons_append, List.cons.injEq, List.append_eq_nil_iff] at whole
      exact absurd whole.2.2 missing
  | more fits longer _ ih =>
    cases front with
    | nil => rw [decodeFrom]
    | cons byte front =>
      rw [List.cons_append, List.cons.injEq] at whole
      obtain ⟨rfl, whole⟩ := whole
      simp only [decodeFrom, fits, longer, ↓reduceIte, ih whole]

/-- A character that is not finished is replaced as one. -/
theorem decode_cut (spells : Spells (front ++ back) c) (started : front ≠ [])
    (missing : back ≠ []) : decode front = [replacement] := by
  obtain ⟨byte, others, rfl⟩ := List.exists_cons_of_ne_nil started
  rw [List.cons_append] at spells
  generalize whole : others ++ back = bytes at spells
  cases spells with
  | single => exact absurd (List.append_eq_nil_iff.mp whole).2 missing
  | several longer later =>
    subst whole
    simpa only [decode, decodeFrom, longer] using decodeFrom_unfinished later missing

/-- A byte that goes on with a character and starts none. -/
def IsContinuation (byte : UInt8) : Prop := 0x80 ≤ byte.toNat ∧ byte.toNat < 0xC0

theorem lead_continuation {byte : UInt8} (isContinuation : IsContinuation byte) :
    lead byte = .whole replacement := by
  obtain ⟨low, high⟩ := isContinuation
  have notAscii : ¬ byte < 0x80 := by
    rw [UInt8.lt_iff_toNat_lt]
    exact Nat.not_lt.mpr low
  have below : byte < 0xC2 := by
    rw [UInt8.lt_iff_toNat_lt]
    exact Nat.lt_trans high (by decide)
  simp only [lead, notAscii, below, ↓reduceIte]

/-- Behind bytes that start no character, decoding goes on with the next one. -/
theorem decode_continuations (each : ∀ byte ∈ bytes, IsContinuation byte) (rest : List UInt8) :
    decode (bytes ++ rest) = List.replicate bytes.length replacement ++ decode rest := by
  induction bytes with
  | nil => rfl
  | cons byte others ih =>
    rw [List.forall_mem_cons] at each
    have later := ih each.2
    rw [decode] at later
    simp only [List.cons_append, decode, decodeFrom, lead_continuation each.1, later,
      List.length_cons, List.replicate_succ]

/-- The byte that carries the last six bits of a number. -/
def continuation (bits : Nat) : UInt8 := UInt8.ofNat (bits % 0x40 + 0x80)

theorem toNat_continuation (bits : Nat) : (continuation bits).toNat = bits % 0x40 + 0x80 := by
  rw [continuation, UInt8.toNat_ofNat']
  omega

theorem isContinuation_continuation (bits : Nat) : IsContinuation (continuation bits) := by
  rw [IsContinuation, toNat_continuation]
  omega

theorem fits_continuation {low high : UInt8} {bits : Nat} (above : low.toNat ≤ bits % 0x40 + 0x80)
    (below : bits % 0x40 + 0x80 ≤ high.toNat) (owed value : Nat) :
    Pending.fits ⟨owed, low, high, value⟩ (continuation bits) = true := by
  simp only [Pending.fits, Bool.and_eq_true, decide_eq_true_eq, UInt8.le_iff_toNat_le,
    toNat_continuation]
  exact ⟨above, below⟩

theorem finishes_last (value bits : Nat) :
    Finishes ⟨0, 0x80, 0xBF, value⟩ [continuation bits] (Char.ofNat (value * 64 + bits % 64)) := by
  refine .last (fits_continuation (Nat.le_add_left ..) ?_ 0 value) ?_
  · change bits % 0x40 + 0x80 ≤ 0xBF
    omega
  · simp only [Pending.push, toNat_continuation]
    congr 3
    omega

theorem finishes_more {owed value bits : Nat} {low high : UInt8}
    (above : low.toNat ≤ bits % 0x40 + 0x80) (below : bits % 0x40 + 0x80 ≤ high.toNat)
    (later : Finishes ⟨owed, 0x80, 0xBF, value * 64 + bits % 64⟩ rest c) :
    Finishes ⟨owed + 1, low, high, value⟩ (continuation bits :: rest) c := by
  refine .more (fits_continuation above below _ value) ?_ later
  simp only [Pending.push, toNat_continuation]
  congr 3
  omega

theorem lead_two {bits : Nat} (low : 2 ≤ bits) (high : bits < 0x20) :
    lead (UInt8.ofNat (bits + 0xC0)) = .more ⟨0, 0x80, 0xBF, bits⟩ := by
  have all : ∀ bits < 0x20, 2 ≤ bits →
      lead (UInt8.ofNat (bits + 0xC0)) = .more ⟨0, 0x80, 0xBF, bits⟩ := by decide
  exact all bits high low

theorem lead_three {bits : Nat} (high : bits < 0x10) :
    lead (UInt8.ofNat (bits + 0xE0)) =
      .more ⟨1, if bits = 0 then 0xA0 else 0x80, if bits = 13 then 0x9F else 0xBF, bits⟩ := by
  have all : ∀ bits < 0x10, lead (UInt8.ofNat (bits + 0xE0)) =
      .more ⟨1, if bits = 0 then 0xA0 else 0x80, if bits = 13 then 0x9F else 0xBF, bits⟩ := by
    decide
  exact all bits high

theorem lead_four {bits : Nat} (high : bits < 5) :
    lead (UInt8.ofNat (bits + 0xF0)) =
      .more ⟨2, if bits = 0 then 0x90 else 0x80, if bits = 4 then 0x8F else 0xBF, bits⟩ := by
  have all : ∀ bits < 5, lead (UInt8.ofNat (bits + 0xF0)) =
      .more ⟨2, if bits = 0 then 0x90 else 0x80, if bits = 4 then 0x8F else 0xBF, bits⟩ := by
    decide
  exact all bits high

/-- The bytes of a character, by how many they are. -/
theorem utf8EncodeChar_cases {motive : List UInt8 → Prop} (c : Char)
    (one : c.toNat < 0x80 → motive [UInt8.ofNat c.toNat])
    (two : 0x80 ≤ c.toNat → c.toNat < 0x800 →
      motive [UInt8.ofNat (c.toNat / 64 % 0x20 + 0xC0), continuation c.toNat])
    (three : 0x800 ≤ c.toNat → c.toNat < 0x10000 →
      motive [UInt8.ofNat (c.toNat / 4096 % 0x10 + 0xE0), continuation (c.toNat / 64),
        continuation c.toNat])
    (four : 0x10000 ≤ c.toNat →
      motive [UInt8.ofNat (c.toNat / 262144 % 0x08 + 0xF0), continuation (c.toNat / 4096),
        continuation (c.toNat / 64), continuation c.toNat]) :
    motive (String.utf8EncodeChar c) := by
  unfold String.utf8EncodeChar
  simp only
  split
  · rename_i small
    exact one (Nat.lt_succ_of_le small)
  · split
    · rename_i large small
      exact two (Nat.lt_of_not_le large) (Nat.lt_succ_of_le small)
    · split
      · rename_i large small
        exact three (Nat.lt_of_not_le large) (Nat.lt_succ_of_le small)
      · rename_i large
        exact four (Nat.lt_of_not_le large)

/-- No character stands among the surrogates or behind the last code point. -/
theorem toNat_valid (c : Char) : c.toNat < 0xD800 ∨ 0xDFFF < c.toNat ∧ c.toNat < 0x110000 := c.valid

theorem spells_utf8EncodeChar (c : Char) : Spells (String.utf8EncodeChar c) c := by
  have valid := toNat_valid c
  have same : Char.ofNat c.toNat = c := Char.ofNat_toNat c
  refine utf8EncodeChar_cases (motive := fun bytes => Spells bytes c) c ?_ ?_ ?_ ?_
  · intro small
    have ascii : UInt8.ofNat c.toNat < 0x80 := by
      rw [UInt8.lt_iff_toNat_lt, UInt8.toNat_ofNat']
      exact Nat.lt_of_le_of_lt (Nat.mod_le ..) small
    have code : (UInt8.ofNat c.toNat).toNat = c.toNat := by
      rw [UInt8.toNat_ofNat']
      omega
    refine .single ?_
    simp only [lead, ascii, ↓reduceIte, code, same]
  · intro large small
    have last := finishes_last (c.toNat / 64 % 0x20) c.toNat
    have code : c.toNat / 64 % 0x20 * 64 + c.toNat % 64 = c.toNat := by omega
    rw [code, same] at last
    exact .several (lead_two (by omega) (by omega)) last
  · intro large small
    have last := finishes_last (c.toNat / 4096 % 0x10 * 64 + c.toNat / 64 % 64) c.toNat
    have code : (c.toNat / 4096 % 0x10 * 64 + c.toNat / 64 % 64) * 64 + c.toNat % 64 =
        c.toNat := by omega
    rw [code, same] at last
    refine .several (lead_three (by omega)) (finishes_more ?_ ?_ last)
    · split <;> simp only [UInt8.reduceToNat] <;> omega
    · split <;> simp only [UInt8.reduceToNat] <;> omega
  · intro large
    have last := finishes_last
      ((c.toNat / 262144 % 0x08 * 64 + c.toNat / 4096 % 64) * 64 + c.toNat / 64 % 64) c.toNat
    have code : ((c.toNat / 262144 % 0x08 * 64 + c.toNat / 4096 % 64) * 64 +
        c.toNat / 64 % 64) * 64 + c.toNat % 64 = c.toNat := by omega
    rw [code, same] at last
    refine .several (lead_four (by omega)) (finishes_more ?_ ?_ (finishes_more ?_ ?_ last))
    · split <;> simp only [UInt8.reduceToNat] <;> omega
    · split <;> simp only [UInt8.reduceToNat] <;> omega
    · exact Nat.le_add_left ..
    · change c.toNat / 64 % 0x40 + 0x80 ≤ 0xBF
      omega

theorem isContinuation_tail (c : Char) :
    ∀ byte ∈ (String.utf8EncodeChar c).tail, IsContinuation byte := by
  have all (bits : List Nat) : ∀ byte ∈ bits.map continuation, IsContinuation byte :=
    List.forall_mem_map.mpr fun bits _ => isContinuation_continuation bits
  refine utf8EncodeChar_cases (motive := fun bytes => ∀ byte ∈ bytes.tail, IsContinuation byte) c
    ?_ ?_ ?_ ?_
  · exact fun _ => all []
  · exact fun _ _ => all [c.toNat]
  · exact fun _ _ => all [c.toNat / 64, c.toNat]
  · exact fun _ => all [c.toNat / 4096, c.toNat / 64, c.toNat]

theorem encode_cons (c : Char) (text : List Char) :
    encode (c :: text) = String.utf8EncodeChar c ++ encode text := rfl

theorem encode_append (first second : List Char) :
    encode (first ++ second) = encode first ++ encode second := List.flatMap_append

theorem decode_encode (text : List Char) : decode (encode text) = text := by
  induction text with
  | nil => rfl
  | cons c rest ih => rw [encode_cons, decode_spells (spells_utf8EncodeChar c), ih]

/-- Where the character at a position starts, counted in bytes. -/
def offsetOf (text : List Char) (position : Nat) : Nat := (encode (text.take position)).length

/-- From character to character, a part of an encoded text is that part of the text. -/
theorem decode_encode_between {text : List Char} {first last : Nat} (ordered : first ≤ last) :
    decode (((encode text).take (offsetOf text last)).drop (offsetOf text first)) =
      (text.take last).drop first := by
  have front : (encode text).take (offsetOf text last) = encode (text.take last) := by
    have whole := encode_append (text.take last) (text.drop last)
    rw [List.take_append_drop] at whole
    rw [whole]
    exact List.take_left
  have back : (encode (text.take last)).drop (offsetOf text first) =
      encode ((text.take last).drop first) := by
    have whole := encode_append ((text.take last).take first) ((text.take last).drop first)
    rw [List.take_append_drop, List.take_take, Nat.min_eq_left ordered] at whole
    rw [whole]
    exact List.drop_left
  rw [front, back, decode_encode]

/-- The characters whose bytes all stand between two offsets, when the text starts at an offset. -/
def wholeBetween (start stop : Nat) (offset : Nat) : List Char → List Char
  | [] => []
  | c :: rest =>
    if start ≤ offset ∧ offset + c.utf8Size ≤ stop then
      c :: wholeBetween start stop (offset + c.utf8Size) rest
    else wholeBetween start stop (offset + c.utf8Size) rest

theorem wholeBetween_behind {start stop offset : Nat} (behind : stop ≤ offset) (text : List Char) :
    wholeBetween start stop offset text = [] := by
  induction text generalizing offset with
  | nil => rfl
  | cons c rest ih =>
    have size := c.utf8Size_pos
    rw [wholeBetween, if_neg (by omega), ih (by omega)]

theorem drop_take_append (first second : List UInt8) (start stop : Nat) :
    ((first ++ second).take stop).drop start =
      (first.take stop).drop start ++
        (second.take (stop - first.length)).drop (start - first.length) := by
  rw [List.take_append, List.drop_append]
  by_cases within : stop ≤ first.length
  · rw [Nat.sub_eq_zero_of_le within, List.take_zero, List.drop_nil, List.drop_nil]
  · rw [List.length_take, Nat.min_eq_right (Nat.le_of_not_le within)]

/-- A part that starts with a character shows those that are whole, and then at most one mark. -/
theorem decode_encode_take {start offset : Nat} (inside : start ≤ offset) (stop : Nat)
    (text : List Char) : ∃ back ≤ 1, decode ((encode text).take (stop - offset)) =
      wholeBetween start stop offset text ++ List.replicate back replacement := by
  induction text generalizing offset with
  | nil => exact ⟨0, Nat.zero_le 1, by simp [encode, decode, decodeFrom, wholeBetween]⟩
  | cons c rest ih =>
    have size := c.utf8Size_pos
    have length := String.length_utf8EncodeChar c
    rw [encode_cons, List.take_append, length, Nat.sub_sub, wholeBetween]
    by_cases fits : offset + c.utf8Size ≤ stop
    · obtain ⟨back, few, later⟩ := ih (Nat.le_add_right_of_le inside)
      refine ⟨back, few, ?_⟩
      rw [List.take_of_length_le (by omega), decode_spells (spells_utf8EncodeChar c), later,
        if_pos ⟨inside, fits⟩]
      rfl
    · -- the part ends before or inside this character, and nothing behind it is left
      have spent : stop - (offset + c.utf8Size) = 0 := by omega
      rw [if_neg fun both => fits both.2, wholeBetween_behind (by omega), spent, List.take_zero,
        List.append_nil]
      by_cases none : stop ≤ offset
      · refine ⟨0, Nat.zero_le 1, ?_⟩
        rw [Nat.sub_eq_zero_of_le none]
        rfl
      · refine ⟨1, Nat.le_refl 1, ?_⟩
        have cut := spells_utf8EncodeChar c
        rw [← List.take_append_drop (stop - offset) (String.utf8EncodeChar c)] at cut
        refine decode_cut cut ?_ ?_
        · rw [← List.length_pos_iff, List.length_take]
          omega
        · rw [← List.length_pos_iff, List.length_drop]
          omega

theorem isContinuation_drop_take (c : Char) {start offset : Nat} (stop : Nat)
    (inside : offset < start) :
    ∀ byte ∈ ((String.utf8EncodeChar c).take (stop - offset)).drop (start - offset),
      IsContinuation byte := by
  intro byte isPart
  obtain ⟨skipped, more⟩ := Nat.exists_eq_add_one_of_ne_zero (Nat.sub_ne_zero_of_lt inside)
  rw [List.drop_take, more, ← List.drop_tail] at isPart
  exact isContinuation_tail c byte (List.mem_of_mem_drop (List.mem_of_mem_take isPart))

/-- A part of an encoded text shows the characters that are whole in it, in order, behind a mark for
each byte of a character that it starts inside of and before one for a character that it ends
inside of. -/
theorem decode_encode_part (start stop offset : Nat) (text : List Char) :
    ∃ front ≤ 3, ∃ back ≤ 1,
      decode (((encode text).take (stop - offset)).drop (start - offset)) =
        List.replicate front replacement ++ wholeBetween start stop offset text ++
          List.replicate back replacement := by
  induction text generalizing offset with
  | nil =>
    refine ⟨0, Nat.zero_le 3, 0, Nat.zero_le 1, ?_⟩
    simp [encode, decode, decodeFrom, wholeBetween]
  | cons c rest ih =>
    by_cases inside : start ≤ offset
    · obtain ⟨back, few, shown⟩ := decode_encode_take inside stop (c :: rest)
      refine ⟨0, Nat.zero_le 3, back, few, ?_⟩
      rw [Nat.sub_eq_zero_of_le inside, List.drop_zero, shown]
      rfl
    · have length := String.length_utf8EncodeChar c
      rw [encode_cons, drop_take_append, length, Nat.sub_sub, Nat.sub_sub, wholeBetween,
        if_neg fun both => inside both.1]
      by_cases before : offset + c.utf8Size ≤ start
      · have none :
            ((String.utf8EncodeChar c).take (stop - offset)).drop (start - offset) = [] := by
          rw [List.drop_eq_nil_iff, List.length_take]
          omega
        rw [none, List.nil_append]
        exact ih (offset + c.utf8Size)
      · -- the part starts inside this character, so all that it takes of it goes on with one
        obtain ⟨back, few, later⟩ := decode_encode_take (Nat.le_of_not_le before) stop rest
        have tails := isContinuation_drop_take c stop (Nat.lt_of_not_le inside)
        have here : start - (offset + c.utf8Size) = 0 := by omega
        have count : (((String.utf8EncodeChar c).take (stop - offset)).drop
            (start - offset)).length ≤ 3 := by
          have size := c.utf8Size_le_four
          rw [List.length_drop, List.length_take]
          omega
        refine ⟨_, count, back, few, ?_⟩
        rw [here, List.drop_zero, decode_continuations tails, later, List.append_assoc]

end ClassSketch.Text.Utf8
