import Mathlib.Data.Char
import Mathlib.Data.List.TakeWhile
import Mathlib.Tactic.Common

set_option autoImplicit false

/-!
# Percent-encoded forms

The fields of a form as one text, the way `urllib.parse` writes and reads it. A text is written by
its UTF-8 bytes: the safe ones stand for themselves, the space is a `+`, and every other byte is a
`%` with two hexadecimal digits.
-/
namespace BacklinkPublisher.FormEncoding

def isAscii (c : Char) : Bool := c.toNat < 128

/-- The text before the first `c`, the `c` if there is one, and the text after it. -/
def partition (c : Char) (s : List Char) : List Char × List Char × List Char :=
  (s.takeWhile (· ≠ c), (s.dropWhile (· ≠ c)).take 1, (s.dropWhile (· ≠ c)).drop 1)

def replace (old new : Char) (s : List Char) : List Char :=
  s.map fun c => if c = old then new else c

theorem isAscii_of_isDigit {c : Char} (digit : c.isDigit) : isAscii c := by
  rw [Char.isDigit, Bool.and_eq_true, decide_eq_true_eq, decide_eq_true_eq] at digit
  have bound := UInt32.le_iff_toNat_le.mp digit.2
  change c.toNat ≤ 57 at bound
  rw [isAscii, decide_eq_true_eq]
  omega

/-! ## UTF-8 -/

def encode (s : List Char) : List UInt8 := s.flatMap String.utf8EncodeChar

/-- How many bytes may continue a sequence that `b` begins, and the bounds of the first of them. -/
def continuation (b : UInt8) : ℕ × UInt8 × UInt8 :=
  if b < 0xc2 then (0, 0, 0)
  else if b < 0xe0 then (1, 0x80, 0xbf)
  else if b = 0xe0 then (2, 0xa0, 0xbf)
  else if b = 0xed then (2, 0x80, 0x9f)
  else if b < 0xf0 then (2, 0x80, 0xbf)
  else if b = 0xf0 then (3, 0x90, 0xbf)
  else if b < 0xf4 then (3, 0x80, 0xbf)
  else if b = 0xf4 then (3, 0x80, 0x8f)
  else (0, 0, 0)

/-- How many bytes after `b` one replacement character stands for as well. -/
def replaced (b : UInt8) : List UInt8 → ℕ
  | [] => 0
  | next :: rest =>
    let (count, low, high) := continuation b
    if 0 < count ∧ low ≤ next ∧ next ≤ high then
      1 + ((rest.take (count - 1)).takeWhile fun b => 0x80 ≤ b ∧ b ≤ 0xbf).length
    else 0

/-- `bytes.decode("utf-8", errors="replace")`. -/
def decode : List UInt8 → List Char
  | [] => []
  | b :: rest =>
    match (b :: rest).toByteArray.utf8DecodeChar? 0 with
    | some c => c :: decode ((b :: rest).drop c.utf8Size)
    | none => '\uFFFD' :: decode (rest.drop (replaced b rest))
termination_by bytes => bytes.length
decreasing_by
  · have size := c.utf8Size_pos
    simp only [List.length_drop, List.length_cons]
    omega
  · simp only [List.length_drop, List.length_cons]
    omega

theorem decode_utf8EncodeChar (c : Char) (rest : List UInt8) :
    decode (String.utf8EncodeChar c ++ rest) = c :: decode rest := by
  have first : ((String.utf8EncodeChar c ++ rest).toByteArray).utf8DecodeChar? 0 = some c := by
    rw [List.toByteArray_append]
    exact ByteArray.utf8DecodeChar?_utf8EncodeChar_append
  have size := String.length_utf8EncodeChar c
  cases h : String.utf8EncodeChar c with
  | nil =>
    have positive := c.utf8Size_pos
    rw [h, List.length_nil] at size
    omega
  | cons b bytes =>
    rw [h, List.cons_append] at first
    rw [List.cons_append, decode, first]
    dsimp only
    rw [← size, h, ← List.cons_append, List.drop_left]

theorem decode_encode (s : List Char) : decode (encode s) = s := by
  induction s with
  | nil => simp [encode, decode]
  | cons c s ih =>
    change decode (String.utf8EncodeChar c ++ encode s) = c :: s
    rw [decode_utf8EncodeChar, ih]

theorem utf8EncodeChar_ascii {c : Char} (ascii : isAscii c) :
    String.utf8EncodeChar c = [UInt8.ofNat c.toNat] := by
  have small : c.toNat < 128 := by simpa [isAscii] using ascii
  have size : c.utf8Size = 1 := by
    have bound : c.val ≤ 127 := by
      rw [UInt32.le_iff_toNat_le]
      change c.toNat ≤ 127
      omega
    simp [Char.utf8Size, bound]
  rw [String.utf8EncodeChar_eq_singleton size]
  rfl

/-! ## One text -/

def hexDigit (n : ℕ) : Char := if n < 10 then Char.ofNat (48 + n) else Char.ofNat (55 + n)

def hexValue (c : Char) : Option ℕ :=
  if '0' ≤ c ∧ c ≤ '9' then some (c.toNat - 48)
  else if 'A' ≤ c ∧ c ≤ 'F' then some (c.toNat - 55)
  else if 'a' ≤ c ∧ c ≤ 'f' then some (c.toNat - 87)
  else none

/-- The bytes that stand for themselves: the letters, the digits and `_.-~`. -/
def alwaysSafe (b : UInt8) : Bool :=
  let c := Char.ofNat b.toNat
  isAscii c && (c.isAlphanum || c ∈ ['_', '.', '-', '~'])

def quoteByte (b : UInt8) : List Char :=
  if b = 0x20 then ['+']
  else if alwaysSafe b then [Char.ofNat b.toNat]
  else ['%', hexDigit (b.toNat / 16), hexDigit (b.toNat % 16)]

def quotePlus (s : List Char) : List Char := (encode s).flatMap quoteByte

def unquoteToBytes : List Char → List UInt8
  | '%' :: high :: low :: rest =>
    match hexValue high, hexValue low with
    | some h, some l => UInt8.ofNat (16 * h + l) :: unquoteToBytes rest
    | _, _ => 0x25 :: unquoteToBytes (high :: low :: rest)
  | c :: rest => String.utf8EncodeChar c ++ unquoteToBytes rest
  | [] => []

/-- `run` holds the ASCII characters that wait to be decoded together. -/
def unquoteRuns (run : List Char) : List Char → List Char
  | [] => decode (unquoteToBytes run)
  | c :: rest =>
    if isAscii c then unquoteRuns (run ++ [c]) rest
    else decode (unquoteToBytes run) ++ c :: unquoteRuns [] rest

def unquote (s : List Char) : List Char := if '%' ∈ s then unquoteRuns [] s else s

/-- The characters that `quotePlus` writes. -/
def isQuoted (c : Char) : Bool :=
  isAscii c && (c.isAlphanum || c ∈ ['_', '.', '-', '~', '+', '%'])

theorem isQuoted_hexDigit : ∀ n < 16, isQuoted (hexDigit n) ∧ hexDigit n ≠ '+' := by decide

theorem hexValue_hexDigit : ∀ n < 16, hexValue (hexDigit n) = some n := by decide

theorem isQuoted_quoteByte (b : UInt8) : ∀ c ∈ quoteByte b, isQuoted c := by
  have size := b.toNat_lt
  have high := isQuoted_hexDigit (b.toNat / 16) (by omega)
  have low := isQuoted_hexDigit (b.toNat % 16) (by omega)
  intro c mem
  unfold quoteByte at mem
  split_ifs at mem with space safe
  · rw [List.mem_singleton.mp mem]
    decide
  · rw [List.mem_singleton.mp mem]
    simp only [alwaysSafe, Bool.and_eq_true, Bool.or_eq_true, decide_eq_true_eq] at safe
    simp only [isQuoted, Bool.and_eq_true, Bool.or_eq_true, decide_eq_true_eq, safe.1, true_and]
    apply safe.2.imp_right
    intro mark
    exact List.mem_append_left ['+', '%'] mark
  · simp only [List.mem_cons, List.not_mem_nil, or_false] at mem
    rcases mem with rfl | rfl | rfl
    · decide
    · exact high.1
    · exact low.1

theorem isQuoted_quotePlus (s : List Char) : ∀ c ∈ quotePlus s, isQuoted c := by
  intro c mem
  have wrote := List.mem_flatMap.mp mem
  exact wrote.elim fun b written => isQuoted_quoteByte b c written.2

theorem isAscii_of_isQuoted {c : Char} (quoted : isQuoted c) : isAscii c :=
  (Bool.and_eq_true _ _ ▸ quoted).1

theorem unquoteToBytes_cons {c : Char} (ascii : isAscii c) (plain : c ≠ '%') (rest : List Char) :
    unquoteToBytes (c :: rest) = UInt8.ofNat c.toNat :: unquoteToBytes rest := by
  have bytes : unquoteToBytes (c :: rest) = String.utf8EncodeChar c ++ unquoteToBytes rest := by
    rw [unquoteToBytes]
    intro high low rest h
    exact absurd h plain
  rw [bytes, utf8EncodeChar_ascii ascii, List.singleton_append]

theorem unquoteToBytes_quoteByte (b : UInt8) (rest : List Char) :
    unquoteToBytes (replace '+' ' ' (quoteByte b) ++ rest) = b :: unquoteToBytes rest := by
  have size := b.toNat_lt
  unfold quoteByte
  split_ifs with space safe
  · change unquoteToBytes (' ' :: rest) = b :: unquoteToBytes rest
    rw [unquoteToBytes_cons (by decide) (by decide), space]
    rfl
  · have back : UInt8.ofNat (Char.ofNat b.toNat).toNat = b := by
      have valid : b.toNat.isValidChar := Or.inl (by omega)
      have value : (Char.ofNat b.toNat).toNat = b.toNat := by
        rw [Char.ofNat, dif_pos valid]
        rfl
      rw [value, UInt8.ofNat_toNat]
    have mark : Char.ofNat b.toNat ≠ '+' ∧ Char.ofNat b.toNat ≠ '%' := by
      constructor
      · intro h
        simp [alwaysSafe, h] at safe
      · intro h
        simp [alwaysSafe, h] at safe
    have ascii : isAscii (Char.ofNat b.toNat) := by
      simp only [alwaysSafe, Bool.and_eq_true] at safe
      exact safe.1
    simp only [replace, List.map_cons, List.map_nil, if_neg mark.1, List.singleton_append]
    rw [unquoteToBytes_cons ascii mark.2, back]
  · have high := isQuoted_hexDigit (b.toNat / 16) (by omega)
    have low := isQuoted_hexDigit (b.toNat % 16) (by omega)
    have whole : 16 * (b.toNat / 16) + b.toNat % 16 = b.toNat := by omega
    simp only [replace, List.map_cons, List.map_nil, if_neg high.2, if_neg low.2,
      List.cons_append, List.nil_append]
    change unquoteToBytes ('%' :: _ :: _ :: rest) = _
    rw [unquoteToBytes, hexValue_hexDigit _ (by omega), hexValue_hexDigit _ (by omega)]
    dsimp only
    rw [whole, UInt8.ofNat_toNat]

theorem unquoteToBytes_flatMap (bytes : List UInt8) :
    unquoteToBytes (replace '+' ' ' (bytes.flatMap quoteByte)) = bytes := by
  induction bytes with
  | nil => rfl
  | cons b bytes ih =>
    have split : replace '+' ' ' (List.flatMap quoteByte (b :: bytes)) =
        replace '+' ' ' (quoteByte b) ++ replace '+' ' ' (bytes.flatMap quoteByte) := by
      rw [List.flatMap_cons]
      exact List.map_append
    rw [split, unquoteToBytes_quoteByte, ih]

theorem unquoteRuns_ascii (s : List Char) (ascii : ∀ c ∈ s, isAscii c) (run : List Char) :
    unquoteRuns run s = decode (unquoteToBytes (run ++ s)) := by
  induction s generalizing run with
  | nil => rw [unquoteRuns, List.append_nil]
  | cons c s ih =>
    have first := ascii c List.mem_cons_self
    have rest : ∀ d ∈ s, isAscii d := fun d mem => ascii d (List.mem_cons_of_mem c mem)
    rw [unquoteRuns, if_pos first, ih rest, List.append_assoc, List.singleton_append]

/-- An ASCII text with no `%` is its own bytes. -/
theorem unquoteToBytes_plain (s : List Char) (ascii : ∀ c ∈ s, isAscii c) (plain : '%' ∉ s) :
    unquoteToBytes s = encode s := by
  induction s with
  | nil => rfl
  | cons c s ih =>
    have first := ascii c List.mem_cons_self
    have rest : ∀ d ∈ s, isAscii d := fun d mem => ascii d (List.mem_cons_of_mem c mem)
    have mark : c ≠ '%' := fun h => plain (h ▸ List.mem_cons_self)
    have later : '%' ∉ s := fun mem => plain (List.mem_cons_of_mem c mem)
    rw [unquoteToBytes_cons first mark, ih rest later]
    change _ = String.utf8EncodeChar c ++ encode s
    rw [utf8EncodeChar_ascii first, List.singleton_append]

theorem unquote_ascii {s : List Char} (ascii : ∀ c ∈ s, isAscii c) :
    unquote s = decode (unquoteToBytes s) := by
  unfold unquote
  split_ifs with plain
  · exact unquoteRuns_ascii s ascii []
  · rw [unquoteToBytes_plain s ascii plain, decode_encode]

theorem unquote_quotePlus (s : List Char) : unquote (replace '+' ' ' (quotePlus s)) = s := by
  have ascii : ∀ c ∈ replace '+' ' ' (quotePlus s), isAscii c := by
    intro c mem
    have wrote := List.mem_map.mp mem
    refine wrote.elim fun d h => ?_
    rw [← h.2]
    split_ifs
    · decide
    · exact isAscii_of_isQuoted (isQuoted_quotePlus s d h.1)
  rw [unquote_ascii ascii, quotePlus, unquoteToBytes_flatMap, decode_encode]

/-! ## All fields -/

/-- Reads the fields of `qs`, also those with no value. -/
def parseQsl (qs : List Char) : List (List Char × List Char) :=
  ((qs.splitOn '&').filter (· ≠ [])).map fun field =>
    let (name, _, value) := partition '=' field
    (unquote (replace '+' ' ' name), unquote (replace '+' ' ' value))

def urlencode (fields : List (List Char × List Char)) : List Char :=
  ['&'].intercalate (fields.map fun field => quotePlus field.1 ++ '=' :: quotePlus field.2)

theorem decide_ne_of_not_mem {c : Char} {s : List Char} (clean : c ∉ s) :
    ∀ d ∈ s, decide (d ≠ c) = true := by
  intro d mem
  rw [decide_eq_true_eq]
  exact fun h => clean (h ▸ mem)

theorem partition_append {c : Char} {head : List Char} (clean : c ∉ head) (tail : List Char) :
    partition c (head ++ c :: tail) = (head, [c], tail) := by
  have differ := decide_ne_of_not_mem clean
  unfold partition
  rw [List.takeWhile_append_of_pos differ, List.dropWhile_append_of_pos differ,
    List.takeWhile_cons_of_neg (by simp), List.dropWhile_cons_of_neg (by simp), List.append_nil]
  rfl

theorem partition_of_not_mem {c : Char} {s : List Char} (clean : c ∉ s) :
    partition c s = (s, [], []) := by
  have differ := decide_ne_of_not_mem clean
  unfold partition
  rw [List.takeWhile_eq_self_iff.mpr differ, List.dropWhile_eq_nil_iff.mpr differ]
  rfl

theorem partition_append_self (c : Char) (s : List Char) :
    (partition c s).1 ++ (partition c s).2.1 ++ (partition c s).2.2 = s := by
  unfold partition
  dsimp only
  rw [List.append_assoc, List.take_append_drop, List.takeWhile_append_dropWhile]

theorem not_mem_quotePlus (s : List Char) {c : Char} (mark : isQuoted c = false) :
    c ∉ quotePlus s := by
  intro mem
  have h := isQuoted_quotePlus s c mem
  rw [mark] at h
  exact absurd h Bool.false_ne_true

theorem not_mem_urlencode {c : Char} (mark : isQuoted c = false) (separator : c ∉ ['&', '='])
    (fields : List (List Char × List Char)) : c ∉ urlencode fields := by
  have apart : c ≠ '&' ∧ c ≠ '=' := by simpa using separator
  unfold urlencode
  induction fields with
  | nil => exact List.not_mem_nil
  | cons field fields ih =>
    have first : c ∉ quotePlus field.1 ++ '=' :: quotePlus field.2 := by
      rw [List.mem_append, List.mem_cons, not_or, not_or]
      exact ⟨not_mem_quotePlus _ mark, apart.2, not_mem_quotePlus _ mark⟩
    cases fields with
    | nil => rwa [List.map_singleton, List.intercalate_singleton]
    | cons next fields =>
      rw [List.map_cons, List.map_cons, List.intercalate_cons_cons, List.mem_append,
        List.mem_append, not_or, not_or, List.mem_singleton]
      exact ⟨⟨first, apart.1⟩, ih⟩

/-- **Reading a written form back.** -/
theorem parseQsl_urlencode (fields : List (List Char × List Char)) :
    parseQsl (urlencode fields) = fields := by
  cases fields with
  | nil => rfl
  | cons field fields =>
    have clean : ∀ text ∈ (field :: fields).map fun field =>
        quotePlus field.1 ++ '=' :: quotePlus field.2, '&' ∉ text := by
      intro text mem
      have wrote := List.mem_map.mp mem
      refine wrote.elim fun f h => ?_
      rw [← h.2, List.mem_append, List.mem_cons]
      rw [not_or, not_or]
      exact ⟨not_mem_quotePlus _ (by decide), by decide, not_mem_quotePlus _ (by decide)⟩
    have pieces := List.splitOn_intercalate '&' clean (by simp)
    unfold parseQsl urlencode
    rw [pieces, List.filter_eq_self.mpr, List.map_map]
    · rw [List.map_congr_left (g := id), List.map_id]
      intro f mem
      dsimp only [Function.comp_apply]
      rw [partition_append (not_mem_quotePlus f.1 (by decide))]
      dsimp only
      rw [unquote_quotePlus, unquote_quotePlus]
      rfl
    · intro text mem
      have wrote := List.mem_map.mp mem
      refine wrote.elim fun f h => ?_
      rw [← h.2]
      simp

theorem urlencode_ne_nil {fields : List (List Char × List Char)} (some : fields ≠ []) :
    urlencode fields ≠ [] := by
  intro h
  apply some
  rw [← parseQsl_urlencode fields, h]
  rfl

end BacklinkPublisher.FormEncoding
