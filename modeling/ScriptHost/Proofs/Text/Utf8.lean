import ScriptHost.Text.Utf8

/-!
# Text that survives as bytes

Reading bytes lossily gives back the text whose encoding they are, character by character: a
character of one to four bytes takes the machine from between two characters to the same place, with
this character read.  So bytes are kept by a trip through text exactly if they are well formed.
-/

namespace ScriptHost.Text

/-! ## One byte -/

theorem start_one : ∀ n < 128, Utf8State.start (.ofNat n) = some (some (Char.ofNat n), .between) := by
  decide +kernel

theorem start_two : ∀ n < 32, 2 ≤ n →
    Utf8State.start (.ofNat (n + 192)) = some (none, .inside 0 0x80 0xBF n) := by
  decide +kernel

/-- The first byte of three bounds the second one, so that the character is neither shorter than three
bytes nor a surrogate. -/
theorem start_three : ∀ n < 16, Utf8State.start (.ofNat (n + 224)) = some (none,
    .inside 1 (if n = 0 then 0xA0 else 0x80) (if n = 13 then 0x9F else 0xBF) n) := by
  decide +kernel

/-- The first byte of four bounds the second one, so that the character is neither shorter than four
bytes nor too great. -/
theorem start_four : ∀ n < 5, Utf8State.start (.ofNat (n + 240)) = some (none,
    .inside 2 (if n = 0 then 0x90 else 0x80) (if n = 4 then 0x8F else 0xBF) n) := by
  decide +kernel

theorem lossyFrom_start {b : UInt8} {char : Option Char} {state : Utf8State}
    (h : Utf8State.start b = some (char, state)) (rest : List UInt8) :
    lossyFrom .between (b :: rest) = char.toList ++ lossyFrom state rest := by
  simp only [lossyFrom, h]

section

variable {low high : UInt8} {bits n : Nat}

theorem le_ofNat (hn : n < 64) (hlow : low.toNat ≤ n + 128) (hhigh : n + 128 ≤ high.toNat) :
    low ≤ .ofNat (n + 128) ∧ .ofNat (n + 128) ≤ high ∧ (UInt8.ofNat (n + 128)).toNat = n + 128 := by
  have hnat : (UInt8.ofNat (n + 128)).toNat = n + 128 := by
    rw [UInt8.toNat_ofNat']
    omega
  rw [UInt8.le_iff_toNat_le, UInt8.le_iff_toNat_le, hnat]
  exact ⟨hlow, hhigh, rfl⟩

/-- Inside a character, with more bytes to come after the next one. -/
theorem lossyFrom_more (hn : n < 64) (hlow : low.toNat ≤ n + 128) (hhigh : n + 128 ≤ high.toNat)
    (more : Nat) (rest : List UInt8) :
    lossyFrom (.inside (more + 1) low high bits) (.ofNat (n + 128) :: rest) =
      lossyFrom (.inside more 0x80 0xBF (bits * 64 + n)) rest := by
  obtain ⟨hle, hge, hnat⟩ := le_ofNat hn hlow hhigh
  simp only [lossyFrom, if_pos (And.intro hle hge), Utf8State.continue_, hnat, Nat.add_sub_cancel]
  rfl

/-- Inside a character, before its last byte. -/
theorem lossyFrom_last (hn : n < 64) (hlow : low.toNat ≤ n + 128) (hhigh : n + 128 ≤ high.toNat)
    (rest : List UInt8) :
    lossyFrom (.inside 0 low high bits) (.ofNat (n + 128) :: rest) =
      Char.ofNat (bits * 64 + n) :: lossyFrom .between rest := by
  obtain ⟨hle, hge, hnat⟩ := le_ofNat hn hlow hhigh
  simp only [lossyFrom, if_pos (And.intro hle hge), Utf8State.continue_, hnat, Nat.add_sub_cancel]
  rfl

end

/-! ## One character -/

section

variable {v : Nat}

theorem lossyFrom_two (hv : 128 ≤ v) (hv' : v < 2048) (rest : List UInt8) :
    lossyFrom .between (.ofNat (v / 64 + 192) :: .ofNat (v % 64 + 128) :: rest) =
      Char.ofNat v :: lossyFrom .between rest := by
  rw [lossyFrom_start (start_two _ (by omega) (by omega)), Option.toList_none, List.nil_append,
    lossyFrom_last (Nat.mod_lt _ (by decide)) (by simp) (by simp; omega),
    show v / 64 * 64 + v % 64 = v by omega]

theorem lossyFrom_three (hv : 2048 ≤ v) (hv' : v < 65536) (hvalid : v < 0xD800 ∨ 0xDFFF < v)
    (rest : List UInt8) :
    lossyFrom .between (.ofNat (v / 4096 + 224) :: .ofNat (v / 64 % 64 + 128) ::
      .ofNat (v % 64 + 128) :: rest) = Char.ofNat v :: lossyFrom .between rest := by
  rw [lossyFrom_start (start_three _ (by omega)), Option.toList_none, List.nil_append,
    lossyFrom_more (Nat.mod_lt _ (by decide)) (by split <;> simp; omega)
      (by split <;> simp <;> omega),
    lossyFrom_last (Nat.mod_lt _ (by decide)) (by simp) (by simp; omega),
    show (v / 4096 * 64 + v / 64 % 64) * 64 + v % 64 = v by omega]

theorem lossyFrom_four (hv : 65536 ≤ v) (hv' : v < 0x110000) (rest : List UInt8) :
    lossyFrom .between (.ofNat (v / 262144 + 240) :: .ofNat (v / 4096 % 64 + 128) ::
      .ofNat (v / 64 % 64 + 128) :: .ofNat (v % 64 + 128) :: rest) =
        Char.ofNat v :: lossyFrom .between rest := by
  rw [lossyFrom_start (start_four _ (by omega)), Option.toList_none, List.nil_append,
    lossyFrom_more (Nat.mod_lt _ (by decide)) (by split <;> simp; omega)
      (by split <;> simp <;> omega),
    lossyFrom_more (Nat.mod_lt _ (by decide)) (by simp) (by simp; omega),
    lossyFrom_last (Nat.mod_lt _ (by decide)) (by simp) (by simp; omega),
    show ((v / 262144 * 64 + v / 4096 % 64) * 64 + v / 64 % 64) * 64 + v % 64 = v by omega]

end

/-- The bytes of a character are read as this character. -/
theorem lossyFrom_encodeChar (c : Char) (rest : List UInt8) :
    lossyFrom .between (String.utf8EncodeChar c ++ rest) = c :: lossyFrom .between rest := by
  have hchar : Char.ofNat c.val.toNat = c := c.ofNat_toNat
  have hvalid : c.val.toNat < 0xD800 ∨ 0xDFFF < c.val.toNat ∧ c.val.toNat < 0x110000 := c.valid
  rw [String.utf8EncodeChar]
  generalize c.val.toNat = v at hchar hvalid
  split
  · rw [List.singleton_append, lossyFrom_start (start_one v (by omega)), hchar]
    rfl
  · split
    · rw [Nat.mod_eq_of_lt (show v / 64 < 32 by omega), ← hchar]
      exact lossyFrom_two (by omega) (by omega) rest
    · split
      · rw [Nat.mod_eq_of_lt (show v / 4096 < 16 by omega), ← hchar]
        exact lossyFrom_three (by omega) (by omega) (by omega) rest
      · rw [Nat.mod_eq_of_lt (show v / 262144 < 8 by omega), ← hchar]
        exact lossyFrom_four (by omega) (by omega) rest

/-! ## Texts -/

theorem lossyFrom_flatMap (cs : List Char) :
    lossyFrom .between (cs.flatMap String.utf8EncodeChar) = cs := by
  induction cs with
  | nil => rfl
  | cons c cs ih => rw [List.flatMap_cons, lossyFrom_encodeChar, ih]

theorem toList_loop (bytes : ByteArray) (i : Nat) (done : List UInt8) :
    ByteArray.toList.loop bytes i done = done.reverse ++ bytes.data.toList.drop i := by
  fun_induction ByteArray.toList.loop bytes i done with
  | case1 i done h ih =>
      have hi : i < bytes.data.toList.length := h
      have hget : bytes.get! i = bytes.data.toList[i] := getElem!_pos bytes.data i h
      rw [ih, List.drop_eq_getElem_cons hi, hget, List.reverse_cons, List.append_assoc,
        List.singleton_append]
  | case2 i done h =>
      rw [List.drop_eq_nil_of_le (Nat.le_of_not_lt h), List.append_nil]

theorem toList_eq (bytes : ByteArray) : bytes.toList = bytes.data.toList := by
  rw [ByteArray.toList, toList_loop]
  rfl

/-- The encoding of a text is read as this text. -/
theorem lossy_toUTF8 (s : String) : lossy s.toUTF8 = s := by
  rw [lossy, toList_eq, String.toUTF8_eq_toByteArray, ← String.utf8Encode_toList, List.utf8Encode,
    List.toList_data_toByteArray, lossyFrom_flatMap, String.ofList_toList]

/-- A trip through text keeps bytes exactly if they are well formed. -/
theorem toUTF8_lossy_iff (data : ByteArray) :
    (lossy data).toUTF8 = data ↔ data.IsValidUTF8 := by
  constructor
  · intro h
    rw [← h]
    exact (lossy data).isValidUTF8
  · intro h
    exact congrArg String.toUTF8 (lossy_toUTF8 (.ofByteArray data h))

end ScriptHost.Text
