import CommitSeal.S2k

/-!
# The definition of derived keys

A derived key is defined by two strings without end: salt and passphrase repeated, of which a count
says how much is hashed, and the digests one behind the other, of which the key is the start
(`S2k.plainKey`). The digests are not computed from the repeated octets themselves but from chunks
of many copies and a part of one more. That makes no difference, wherever the count falls and also
when a single copy is longer than a chunk is meant to be (`S2k.absorbRepeated_chunk`).

So what is derived is the key of the definition (`S2k.derive_eq_plainKey`). Shorter keys are the
start of longer ones, and a coded count is as good as the count that it stands for. A count below
−96 would be a coded one with a negative exponent, and nothing is derived (`S2k.derive_cases`).
-/

namespace CommitSeal.S2k

open Digest

/-! ## Strings without end -/

/-- The first `length` octets of the pieces one behind the other without end. No piece is to be
empty, so that `length` of them are enough. -/
def frontOf (pieces : Nat → Octets) (length : Nat) : Octets :=
  ((List.range length).flatMap pieces).take length

section Front

variable {pieces : Nat → Octets}

/-- Pieces that are not empty have an octet each. -/
theorem le_length_flatMap_range (hpieces : ∀ place, pieces place ≠ []) (many : Nat) :
    many ≤ ((List.range many).flatMap pieces).length := by
  induction many with
  | zero => exact Nat.zero_le _
  | succ many ih =>
    have hlast := List.length_pos_iff.mpr (hpieces many)
    rw [List.range_succ, List.flatMap_append, List.length_append, List.flatMap_singleton]
    omega

/-- More pieces start with fewer. -/
theorem flatMap_range_prefix (pieces : Nat → Octets) {few many : Nat} (hfew : few ≤ many) :
    (List.range few).flatMap pieces <+: (List.range many).flatMap pieces := by
  induction hfew with
  | refl => exact List.prefix_refl _
  | @step many _ ih =>
    rw [List.range_succ, List.flatMap_append]
    exact ih.trans (List.prefix_append _ _)

/-- It does not matter how many pieces there are, if they are enough. -/
theorem take_flatMap_range (hpieces : ∀ place, pieces place ≠ []) {many length : Nat}
    (hmany : length ≤ ((List.range many).flatMap pieces).length) :
    ((List.range many).flatMap pieces).take length = frontOf pieces length := by
  have hlength := le_length_flatMap_range hpieces length
  rcases Nat.le_total many length with hfew | hfew
  · obtain ⟨more, hmore⟩ := flatMap_range_prefix pieces hfew
    rw [frontOf, ← hmore, List.take_append_of_le_length hmany]
  · obtain ⟨more, hmore⟩ := flatMap_range_prefix pieces hfew
    rw [frontOf, ← hmore, List.take_append_of_le_length hlength]

theorem length_frontOf (hpieces : ∀ place, pieces place ≠ []) (length : Nat) :
    (frontOf pieces length).length = length := by
  rw [frontOf, List.length_take]
  exact Nat.min_eq_left (le_length_flatMap_range hpieces length)

/-- Of two fronts the longer one starts with the shorter one. -/
theorem frontOf_prefix (hpieces : ∀ place, pieces place ≠ []) {shorter longer : Nat}
    (hlonger : shorter ≤ longer) : frontOf pieces shorter <+: frontOf pieces longer := by
  have henough := le_length_flatMap_range hpieces longer
  rw [← take_flatMap_range hpieces (Nat.le_trans hlonger henough), frontOf]
  exact List.take_prefix_take_left hlonger

/-- Copies of one piece, if they are enough, start with what the piece repeated starts with. -/
theorem take_flatten_replicate {piece : Octets} (hpiece : piece ≠ []) {many length : Nat}
    (hmany : length ≤ many * piece.length) :
    (List.replicate many piece).flatten.take length = frontOf (fun _ => piece) length := by
  have hcopies : (List.range many).flatMap (fun _ => piece)
      = (List.replicate many piece).flatten := by
    rw [List.flatMap_def, List.map_const', List.length_range]
  rw [← hcopies]
  apply take_flatMap_range fun _ => hpiece
  rwa [hcopies, List.length_flatten, List.map_replicate, List.sum_replicate_nat]

end Front

/-! ## What is hashed -/

variable {Chain : Type} (c : Construction Chain)

theorem absorbTimes_eq (piece : Octets) (times : Nat) (progress : Progress Chain) :
    absorbTimes c piece times progress
      = c.update progress (List.replicate times piece).flatten := by
  induction times generalizing progress with
  | zero => rfl
  | succ times ih =>
    rw [absorbTimes, ih, List.replicate_succ, List.flatten_cons, update_append]

/-- Whole pieces and a part of one more are what the piece repeated starts with. -/
theorem flatten_replicate_append_take {piece : Octets} (hpiece : piece ≠ []) (count : Nat) :
    (List.replicate (count / piece.length) piece).flatten ++ piece.take (count % piece.length)
      = frontOf (fun _ => piece) count := by
  have hpos : 0 < piece.length := List.length_pos_iff.mpr hpiece
  have hcount : piece.length * (count / piece.length) + count % piece.length = count :=
    Nat.div_add_mod count piece.length
  have hlast : count % piece.length < piece.length := Nat.mod_lt count hpos
  have hwhole : (List.replicate (count / piece.length) piece).flatten.length
      = piece.length * (count / piece.length) := by
    rw [List.length_flatten, List.map_replicate, List.sum_replicate_nat, Nat.mul_comm]
  have henough : count ≤ (count / piece.length + 1) * piece.length := by
    rw [Nat.add_mul, Nat.one_mul, Nat.mul_comm]
    omega
  have hall : (List.replicate (count / piece.length) piece).flatten.take count
      = (List.replicate (count / piece.length) piece).flatten :=
    List.take_of_length_le (by omega)
  rw [← take_flatten_replicate hpiece henough, List.replicate_succ', List.flatten_append,
    List.flatten_singleton, List.take_append, hall, hwhole]
  rw [show count - piece.length * (count / piece.length) = count % piece.length by omega]

/-- A chunk repeated is the data repeated. -/
theorem frontOf_chunk {data : Octets} (hdata : data ≠ []) (count : Nat) :
    frontOf (fun _ => chunk data) count = frontOf (fun _ => data) count := by
  have hpos : 0 < data.length := List.length_pos_iff.mpr hdata
  obtain ⟨copies, hcopies⟩ : ∃ copies, copies = max 1 (8192 / data.length) := ⟨_, rfl⟩
  have hchunk : chunk data = (List.replicate copies data).flatten := by rw [chunk, hcopies]
  have hone : 1 ≤ copies := by omega
  have hchunks : (List.replicate count (chunk data)).flatten
      = (List.replicate (count * copies) data).flatten := by
    rw [hchunk, ← List.map_replicate, ← List.flatten_flatten, List.flatten_replicate_replicate]
  have hlength : (chunk data).length = copies * data.length := by
    rw [hchunk, List.length_flatten, List.map_replicate, List.sum_replicate_nat]
  have hchunkPos : 0 < (chunk data).length := by
    rw [hlength]
    exact Nat.mul_pos hone hpos
  have hne : chunk data ≠ [] := List.length_pos_iff.mp hchunkPos
  have henough : count ≤ count * copies * data.length := by
    rw [Nat.mul_assoc, ← hlength]
    exact Nat.le_mul_of_pos_right count hchunkPos
  rw [← take_flatten_replicate hne (Nat.le_mul_of_pos_right count hchunkPos), hchunks,
    take_flatten_replicate hdata henough]

/-- Chunks and a part of one more are absorbed as the data repeated is. -/
theorem absorbRepeated_chunk {data : Octets} (hdata : data ≠ []) (count : Nat)
    (progress : Progress Chain) :
    absorbRepeated c (chunk data) count progress
      = c.update progress (frontOf (fun _ => data) count) := by
  have hchunk : chunk data ≠ [] := by
    simp [chunk, hdata]
  rw [absorbRepeated, absorbTimes_eq, ← update_append, flatten_replicate_append_take hchunk,
    frontOf_chunk hdata]

/-- Each digest is that of some zeros and the data repeated. -/
theorem digestBehind_chunk {data : Octets} (hdata : data ≠ []) (zeros count : Nat) :
    digestBehind c zeros (chunk data) count
      = c.digest (List.replicate zeros 0 ++ frontOf (fun _ => data) count) := by
  rw [digestBehind, absorbRepeated_chunk c hdata, ← update_append, Construction.digest]

/-! ## Keys -/

/-- A key by its definition, over any hash function: the first octets of digests one behind the
other without end, each of the data repeated without end up to a count of octets, behind one more
zero than the digest before. At least all of the data is hashed. -/
def plainExpansion (digest : Octets → Octets) (data : Octets) (count length : Nat) : Octets :=
  frontOf (fun zeros =>
    digest (List.replicate zeros 0 ++ frontOf (fun _ => data) (max count data.length))) length

/-- As many digests as are computed are enough for the key. -/
theorem expand_eq_plainExpansion {digestLength : Nat} (hpos : 0 < digestLength)
    (hdigest : ∀ message, (c.digest message).length = digestLength) {data : Octets}
    (hdata : data ≠ []) (count length : Nat) :
    expand c digestLength data count length = plainExpansion c.digest data count length := by
  have hne : ∀ message, c.digest message ≠ [] := by
    intro message
    apply List.length_pos_iff.mp
    rwa [hdigest]
  simp only [expand, digestBehind_chunk c hdata]
  apply take_flatMap_range fun zeros => hne _
  simp only [List.length_flatMap, hdigest, List.map_const', List.length_range,
    List.sum_replicate_nat]
  have hdiv := Nat.div_add_mod (length + digestLength - 1) digestLength
  have hmod := Nat.mod_lt (length + digestLength - 1) hpos
  rw [Nat.mul_comm]
  omega

/-- The octets that a count stands for: its own number from 256 on, and else four bits of mantissa
with a one in front, shifted by six more than the four bits above. -/
def expandedCount (count : Nat) : Nat :=
  if 256 ≤ count then count else (16 + count % 16) <<< (count / 16 + 6)

/-- Every count from zero on stands for some octets. -/
theorem octetCount_natCast (count : Nat) : octetCount count = .ok (expandedCount count) := by
  unfold octetCount expandedCount
  by_cases hlarge : 256 ≤ count
  · rw [if_pos (by omega), if_pos hlarge, Int.toNat_natCast]
  · have hexponent : ¬ (count : Int) / 16 + 6 < 0 := by omega
    have hmantissa : ((count : Int) % 16).toNat = count % 16 := by omega
    have hshift : ((count : Int) / 16 + 6).toNat = count / 16 + 6 := by omega
    rw [if_neg (by omega), if_neg hlarge]
    simp only [if_neg hexponent, hmantissa, hshift]

/-- What a count stands for is no coded count, and stands for itself. -/
theorem expandedCount_expandedCount (count : Nat) :
    expandedCount (expandedCount count) = expandedCount count := by
  have hlarge : 256 ≤ expandedCount count := by
    unfold expandedCount
    split
    · assumption
    · have hpower : 2 ^ 6 ≤ 2 ^ (count / 16 + 6) := Nat.pow_le_pow_right (by omega) (by omega)
      rw [Nat.shiftLeft_eq]
      calc 256 ≤ 16 * 2 ^ 6 := by decide
        _ ≤ (16 + count % 16) * 2 ^ (count / 16 + 6) := Nat.mul_le_mul (by omega) hpower
  rw [expandedCount, if_pos hlarge]

/-- A key by its definition, over SHA-1. -/
def plainKey (data : Octets) (count length : Nat) : Octets :=
  plainExpansion sha1 data count length

theorem length_plainKey (data : Octets) (count length : Nat) :
    (plainKey data count length).length = length :=
  length_frontOf (fun _ => List.cons_ne_nil _ _) length

theorem plainKey_prefix (data : Octets) (count : Nat) {shorter longer : Nat}
    (hlonger : shorter ≤ longer) : plainKey data count shorter <+: plainKey data count longer :=
  frontOf_prefix (fun _ => List.cons_ne_nil _ _) hlonger

/-- A count from −96 on stands for some octets, and one below for none, since its exponent is
negative. -/
theorem octetCount_cases (count : Int) :
    (count < -96 ∧ octetCount count = .error .negativeExponent) ∨
      (-96 ≤ count ∧ ∃ octets, octetCount count = .ok octets) := by
  unfold octetCount
  by_cases hlarge : 256 ≤ count
  · exact .inr ⟨by omega, count.toNat, if_pos hlarge⟩
  · simp only [if_neg hlarge]
    by_cases hexponent : count / 16 + 6 < 0
    · exact .inl ⟨by omega, if_pos hexponent⟩
    · exact .inr ⟨by omega, _, if_neg hexponent⟩

/-- From salt and passphrase, unless both are empty, a key of the length that is asked for is
derived, if the count stands for some octets. -/
theorem derive_cases {passphrase salt : Octets} (hdata : salt ++ passphrase ≠ []) (count : Int)
    (length : Nat) :
    (count < -96 ∧ derive passphrase salt count length = .error .negativeExponent) ∨
      (-96 ≤ count ∧ ∃ key, derive passphrase salt count length = .ok key ∧
        key.length = length) := by
  obtain ⟨hlow, hcount⟩ | ⟨hcount, octets, hoctets⟩ := octetCount_cases count
  · refine .inl ⟨hlow, ?_⟩
    simp only [derive, hcount]
  · have hne : ¬ (salt ++ passphrase).isEmpty = true := by simpa using hdata
    refine .inr ⟨hcount, plainKey (salt ++ passphrase) octets length, ?_, length_plainKey _ _ _⟩
    simp only [derive, hoctets, if_neg hne]
    rw [expand_eq_plainExpansion Sha1.construction (by omega) (fun _ => rfl) hdata]
    rfl

/-- What is derived from salt and passphrase, unless both are empty, is the key of the definition,
for each count from zero on and each length. So a shorter key is the start of a longer one, and a
count in the coded form gives the same key as the number of octets that it stands for. -/
theorem derive_eq_plainKey {passphrase salt : Octets} (hdata : salt ++ passphrase ≠ [])
    (count : Nat) :
    (∀ length, derive passphrase salt count length
        = .ok (plainKey (salt ++ passphrase) (expandedCount count) length) ∧
      (plainKey (salt ++ passphrase) (expandedCount count) length).length = length) ∧
    (∀ shorter longer, shorter ≤ longer → ∃ key more,
      derive passphrase salt count shorter = .ok key ∧
        derive passphrase salt count longer = .ok (key ++ more)) ∧
    ∀ length, derive passphrase salt (expandedCount count) length
      = derive passphrase salt count length := by
  have hderive : ∀ count length : Nat, derive passphrase salt count length
      = .ok (plainKey (salt ++ passphrase) (expandedCount count) length) := by
    intro count length
    have hdata' : ¬ (salt ++ passphrase).isEmpty = true := by simpa using hdata
    simp only [derive, octetCount_natCast, if_neg hdata']
    rw [expand_eq_plainExpansion Sha1.construction (by omega) (fun _ => rfl) hdata]
    rfl
  refine ⟨fun length => ⟨hderive count length, length_plainKey _ _ _⟩, ?_, ?_⟩
  · intro shorter longer hlonger
    obtain ⟨more, hmore⟩ := plainKey_prefix (salt ++ passphrase) (expandedCount count) hlonger
    refine ⟨_, more, hderive count shorter, ?_⟩
    rw [hderive count longer, hmore]
  · intro length
    rw [hderive, hderive, expandedCount_expandedCount]

/-- A key and one that is shorter by an octet, of a passphrase alone, for the smallest count. -/
theorem derive_eq_plainKey_unsalted :
    [] ++ Octets.ofText "pw" ≠ [] ∧
    derive (Octets.ofText "pw") [] (0 : Nat) 32 = .ok (plainKey (Octets.ofText "pw") 1024 32) ∧
    (∃ key more, derive (Octets.ofText "pw") [] (0 : Nat) 31 = .ok key ∧
      derive (Octets.ofText "pw") [] (0 : Nat) 32 = .ok (key ++ more)) ∧
    derive (Octets.ofText "pw") [] (1024 : Nat) 32
      = derive (Octets.ofText "pw") [] (0 : Nat) 32 := by
  have hdata : [] ++ Octets.ofText "pw" ≠ [] := by decide
  obtain ⟨hkey, hshorter, hcoded⟩ := derive_eq_plainKey hdata 0
  exact ⟨hdata, (hkey 32).1, hshorter 31 32 (by omega), hcoded 32⟩

end CommitSeal.S2k
