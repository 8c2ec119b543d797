import Mathlib.Data.List.TakeWhile
import Mathlib.Data.Set.Finite.List
import ShieldRuntime.Library.Machine
import ShieldRuntime.Proofs.PluginSettings

/-!
# The identity of tokens

The base64url decoder reads four characters back to three bytes, whatever bits of earlier bytes are
left in the accumulators. A token gives the user id back if no string in it is mistaken for a claim's
name. `refresh_token` does not look at the blacklist.
-/

namespace ShieldRuntime.Proofs
open Library Plugins Transport AuthInstance

section

variable {n d k x : Nat}

lemma toNat_shiftLeft_or (val : BitVec 32) (hn : n ≤ 32) (hd : d < 2 ^ n) :
    ((val <<< n) ||| BitVec.ofNat 32 d).toNat = (val.toNat * 2 ^ n + d) % 2 ^ 32 := by
  have hsplit : 2 ^ 32 = 2 ^ n * 2 ^ (32 - n) := by rw [← pow_add, Nat.add_sub_cancel' hn]
  have hsmall : d < 2 ^ 32 := hd.trans_le (Nat.pow_le_pow_right (by norm_num) hn)
  have hor := Nat.two_pow_add_eq_or_of_lt hd (val.toNat % 2 ^ (32 - n))
  have hhigh : val.toNat * 2 ^ n % 2 ^ 32 = 2 ^ n * (val.toNat % 2 ^ (32 - n)) := by
    rw [hsplit, Nat.mul_comm, Nat.mul_mod_mul_left]
  rw [BitVec.toNat_or, BitVec.toNat_shiftLeft, BitVec.toNat_ofNat, Nat.mod_eq_of_lt hsmall,
    Nat.shiftLeft_eq, hhigh, ← hor, hsplit, Nat.mul_comm val.toNat, Nat.mod_mul,
    Nat.mul_add_mod, Nat.mod_eq_of_lt hd, Nat.mul_add_div (Nat.two_pow_pos n),
    Nat.div_eq_of_lt hd, Nat.add_zero, Nat.add_comm]

lemma toNat_sshiftRight_and (val : BitVec 32) (h : k + n ≤ 32) :
    (val.sshiftRight k &&& BitVec.ofNat 32 (2 ^ n - 1)).toNat = val.toNat / 2 ^ k % 2 ^ n := by
  have hbits : val.sshiftRight k &&& BitVec.ofNat 32 (2 ^ n - 1) =
      val >>> k &&& BitVec.ofNat 32 (2 ^ n - 1) := by
    apply BitVec.eq_of_getLsbD_eq
    intro i hi
    simp only [BitVec.getLsbD_and, BitVec.getLsbD_sshiftRight, BitVec.getLsbD_ushiftRight,
      BitVec.getLsbD_ofNat, Nat.testBit_two_pow_sub_one]
    by_cases hlow : i < n
    · simp [show k + i < 32 by omega, show ¬32 ≤ i by omega]
    · simp [hlow]
  have hmask : 2 ^ n - 1 < 2 ^ 32 := by
    have := Nat.pow_le_pow_right (show 0 < 2 by norm_num) (show n ≤ 32 by omega)
    omega
  rw [hbits, BitVec.toNat_and, BitVec.toNat_ushiftRight, BitVec.toNat_ofNat,
    Nat.mod_eq_of_lt hmask, Nat.shiftRight_eq_div_pow, Nat.and_two_pow_sub_one_eq_mod]

def sextetChar (n : Nat) : UInt8 := b64urlTable.getD n 0

lemma b64urlVal?_sextetChar (h : n < 64) : b64urlVal? (sextetChar n) = some n := by
  have hall : ∀ k : Fin 64, b64urlVal? (sextetChar k) = some k.val := by decide +kernel
  exact hall ⟨n, h⟩

section Encoder

variable (val : BitVec 32) (b : UInt8) (rest : List UInt8)

def withByte : BitVec 32 := (val <<< 8) ||| b.toBitVec.zeroExtend 32

lemma toNat_withByte : (withByte val b).toNat = (val.toNat * 256 + b.toNat) % 2 ^ 32 := by
  have hbyte : b.toBitVec.zeroExtend 32 = BitVec.ofNat 32 b.toNat := by
    apply BitVec.eq_of_toNat_eq
    rw [BitVec.toNat_setWidth, BitVec.toNat_ofNat]
    rfl
  rw [withByte, hbyte]
  exact toNat_shiftLeft_or val (by norm_num) b.toNat_lt

variable {val} in
lemma b64urlChar_eq (hk : k ≤ 26) (h : val.toNat / 2 ^ k % 64 = n) :
    b64urlChar (val.sshiftRight k) = sextetChar n := by
  rw [← h]
  exact congrArg sextetChar (toNat_sshiftRight_and val (show k + 6 ≤ 32 by omega))

lemma encodeFrom_first :
    (withByte val b).toNat % 4 = b.toNat % 4 ∧
    encodeFrom val 0 (b :: rest) =
      sextetChar (b.toNat / 4) :: encodeFrom (withByte val b) 2 rest := by
  have hb := b.toNat_lt
  have hval := toNat_withByte val b
  have hchar : b64urlChar ((withByte val b).sshiftRight 2) = sextetChar (b.toNat / 4) :=
    b64urlChar_eq (by norm_num) (by omega)
  refine ⟨by omega, ?_⟩
  rw [← hchar]
  rfl

lemma encodeFrom_second :
    (withByte val b).toNat % 16 = b.toNat % 16 ∧
    encodeFrom val 2 (b :: rest) =
      sextetChar (val.toNat % 4 * 16 + b.toNat / 16) :: encodeFrom (withByte val b) 4 rest := by
  have hb := b.toNat_lt
  have hval := toNat_withByte val b
  have hchar : b64urlChar ((withByte val b).sshiftRight 4) =
      sextetChar (val.toNat % 4 * 16 + b.toNat / 16) :=
    b64urlChar_eq (by norm_num) (by omega)
  refine ⟨by omega, ?_⟩
  rw [← hchar]
  rfl

lemma encodeFrom_third :
    encodeFrom val 4 (b :: rest) =
      sextetChar (val.toNat % 16 * 4 + b.toNat / 64) :: sextetChar (b.toNat % 64) ::
        encodeFrom (withByte val b) 0 rest := by
  have hb := b.toNat_lt
  have hval := toNat_withByte val b
  have hhigh : b64urlChar ((withByte val b).sshiftRight 6) =
      sextetChar (val.toNat % 16 * 4 + b.toNat / 64) :=
    b64urlChar_eq (by norm_num) (by omega)
  have hlow : b64urlChar ((withByte val b).sshiftRight 0) = sextetChar (b.toNat % 64) :=
    b64urlChar_eq (by norm_num) (by omega)
  rw [← hhigh, ← hlow]
  rfl

lemma toNat_shiftLeft_eight : (val <<< 8).toNat = val.toNat * 256 % 2 ^ 32 := by
  rw [BitVec.toNat_shiftLeft, Nat.shiftLeft_eq]

lemma encodeFrom_two : encodeFrom val 2 [] = [sextetChar (val.toNat % 4 * 16)] := by
  have hval := toNat_shiftLeft_eight val
  have hchar : b64urlChar ((val <<< 8).sshiftRight 4) = sextetChar (val.toNat % 4 * 16) :=
    b64urlChar_eq (by norm_num) (by omega)
  rw [← hchar]
  rfl

lemma encodeFrom_four : encodeFrom val 4 [] = [sextetChar (val.toNat % 16 * 4)] := by
  have hval := toNat_shiftLeft_eight val
  have hchar : b64urlChar ((val <<< 8).sshiftRight 6) = sextetChar (val.toNat % 16 * 4) :=
    b64urlChar_eq (by norm_num) (by omega)
  rw [← hchar]
  rfl

end Encoder

section Decoder

variable (val : BitVec 32) (rest : List UInt8)

def withSextet (d : Nat) : BitVec 32 := (val <<< 6) ||| BitVec.ofNat 32 d

variable {val} in
lemma byte_eq {b : UInt8} (hk : k ≤ 24) (h : val.toNat / 2 ^ k % 256 = b.toNat) :
    UInt8.ofNat (val.sshiftRight k &&& 0xFF).toNat = b := by
  have hbits : (val.sshiftRight k &&& 0xFF).toNat = b.toNat :=
    (toNat_sshiftRight_and val (show k + 8 ≤ 32 by omega)).trans h
  rw [hbits, UInt8.ofNat_toNat]

lemma toNat_withSextet (hd : d < 64) : (withSextet val d).toNat = (val.toNat * 64 + d) % 2 ^ 32 :=
  toNat_shiftLeft_or val (by norm_num) hd

lemma decodeFrom_first (a : UInt8) (hx : x < 16) :
    ∃ next : BitVec 32, next.toNat % 16 = x ∧
      decodeFrom val 0 (sextetChar (a.toNat / 4) :: sextetChar (a.toNat % 4 * 16 + x) :: rest) =
        a :: decodeFrom next 4 rest := by
  have ha := a.toNat_lt
  have hhigh : a.toNat / 4 < 64 := by omega
  have hlow : a.toNat % 4 * 16 + x < 64 := by omega
  have hval := toNat_withSextet val hhigh
  have hval' := toNat_withSextet (withSextet val (a.toNat / 4)) hlow
  have hbyte : UInt8.ofNat ((withSextet (withSextet val (a.toNat / 4))
      (a.toNat % 4 * 16 + x)).sshiftRight 4 &&& 0xFF).toNat = a :=
    byte_eq (by norm_num) (by omega)
  refine ⟨withSextet (withSextet val (a.toNat / 4)) (a.toNat % 4 * 16 + x), by omega, ?_⟩
  rw [decodeFrom, b64urlVal?_sextetChar hhigh]
  change decodeFrom (withSextet val (a.toNat / 4)) 6 (sextetChar (a.toNat % 4 * 16 + x) :: rest) = _
  rw [decodeFrom, b64urlVal?_sextetChar hlow]
  exact congrArg (· :: _) hbyte

lemma decodeFrom_second (b : UInt8) (hleft : val.toNat % 16 = b.toNat / 16) (hx : x < 4) :
    ∃ next : BitVec 32, next.toNat % 4 = x ∧
      decodeFrom val 4 (sextetChar (b.toNat % 16 * 4 + x) :: rest) =
        b :: decodeFrom next 2 rest := by
  have hlow : b.toNat % 16 * 4 + x < 64 := by omega
  have hval := toNat_withSextet val hlow
  have hbyte : UInt8.ofNat ((withSextet val (b.toNat % 16 * 4 + x)).sshiftRight 2 &&& 0xFF).toNat =
      b :=
    byte_eq (by norm_num) (by omega)
  refine ⟨withSextet val (b.toNat % 16 * 4 + x), by omega, ?_⟩
  rw [decodeFrom, b64urlVal?_sextetChar hlow]
  exact congrArg (· :: _) hbyte

lemma decodeFrom_third (c : UInt8) (hleft : val.toNat % 4 = c.toNat / 64) :
    ∃ next : BitVec 32, decodeFrom val 2 (sextetChar (c.toNat % 64) :: rest) =
      c :: decodeFrom next 0 rest := by
  have hlow : c.toNat % 64 < 64 := Nat.mod_lt _ (by norm_num)
  have hval := toNat_withSextet val hlow
  have hbyte : UInt8.ofNat ((withSextet val (c.toNat % 64)).sshiftRight 0 &&& 0xFF).toNat = c :=
    byte_eq (by norm_num) (by omega)
  refine ⟨withSextet val (c.toNat % 64), ?_⟩
  rw [decodeFrom, b64urlVal?_sextetChar hlow]
  exact congrArg (· :: _) hbyte

end Decoder

lemma decodeFrom_encodeFrom (val val' : BitVec 32) :
    ∀ data, decodeFrom val' 0 (encodeFrom val 0 data) = data
  | [] => rfl
  | [a] => by
    obtain ⟨hleft, hfirst⟩ := encodeFrom_first val a []
    obtain ⟨next, -, hread⟩ := decodeFrom_first val' [] a (show 0 < 16 by norm_num)
    rw [hfirst, encodeFrom_two, hleft]
    exact hread
  | [a, b] => by
    have hb := b.toNat_lt
    obtain ⟨hleft, hfirst⟩ := encodeFrom_first val a [b]
    obtain ⟨hleft', hsecond⟩ := encodeFrom_second (withByte val a) b []
    rw [hfirst, hsecond, encodeFrom_four, hleft, hleft']
    obtain ⟨next, hnext, hread⟩ := decodeFrom_first val' [sextetChar (b.toNat % 16 * 4)] a
      (show b.toNat / 16 < 16 by omega)
    obtain ⟨last, -, hread'⟩ := decodeFrom_second next [] b hnext (show 0 < 4 by norm_num)
    rw [hread]
    exact congrArg (a :: ·) hread'
  | a :: b :: c :: rest => by
    have hb := b.toNat_lt
    have hc := c.toNat_lt
    obtain ⟨hleft, hfirst⟩ := encodeFrom_first val a (b :: c :: rest)
    obtain ⟨hleft', hsecond⟩ := encodeFrom_second (withByte val a) b (c :: rest)
    rw [hfirst, hsecond, encodeFrom_third, hleft, hleft']
    obtain ⟨next, hnext, hread⟩ := decodeFrom_first val' _ a (show b.toNat / 16 < 16 by omega)
    obtain ⟨next', hnext', hread'⟩ := decodeFrom_second next _ b hnext
      (show c.toNat / 64 < 4 by omega)
    obtain ⟨last, hread''⟩ := decodeFrom_third next' _ c hnext'
    rw [hread, hread', hread'', decodeFrom_encodeFrom _ last rest]

theorem b64urlDecode_b64urlEncode (data : List UInt8) : b64urlDecode (b64urlEncode data) = data :=
  decodeFrom_encodeFrom 0 0 data

lemma b64urlChar_mem (sextet : BitVec 32) : b64urlChar sextet ∈ b64urlTable := by
  have hall : ∀ k : Fin 64, b64urlTable.getD k 0 ∈ b64urlTable := by decide +kernel
  have hsmall : (sextet &&& 0x3F).toNat < 64 := by
    exact Nat.lt_of_le_of_lt Nat.and_le_right (by decide)
  exact hall ⟨_, hsmall⟩

section

variable (val : BitVec 32) (pending : Nat)
include val pending

lemma writeSextets_mem :
    ∀ c ∈ (writeSextets val pending).1, c ∈ b64urlTable := by
  induction pending using Nat.strong_induction_on with
  | _ pending ih =>
    intro c hc
    match pending with
    | 0 | 1 | 2 | 3 | 4 | 5 => cases hc
    | valb + 6 =>
      rcases List.mem_cons.mp hc with rfl | hc
      · exact b64urlChar_mem _
      · exact ih valb (by omega) c hc

lemma encodeFrom_mem (data : List UInt8) :
    ∀ c ∈ encodeFrom val pending data, c ∈ b64urlTable := by
  induction data generalizing val pending with
  | nil =>
    intro c hc
    rw [encodeFrom] at hc
    split_ifs at hc
    · rw [List.mem_singleton.mp hc]
      exact b64urlChar_mem _
    · cases hc
  | cons b data ih =>
    intro c hc
    rcases List.mem_append.mp hc with hc | hc
    · exact writeSextets_mem (withByte val b) (pending + 8) c hc
    · exact ih _ _ c hc

lemma writeSextets_length :
    (writeSextets val pending).1.length = pending / 6 ∧
      (writeSextets val pending).2 = pending % 6 := by
  induction pending using Nat.strong_induction_on with
  | _ pending ih =>
    match pending with
    | 0 | 1 | 2 | 3 | 4 | 5 => exact ⟨rfl, rfl⟩
    | valb + 6 =>
      obtain ⟨hlength, hleft⟩ := ih valb (by omega)
      rw [writeSextets, List.length_cons, hlength, hleft]
      omega

lemma encodeFrom_length (data : List UInt8) (h : pending < 6) :
    (encodeFrom val pending data).length = (8 * data.length + pending + 5) / 6 := by
  induction data generalizing val pending with
  | nil =>
    rw [encodeFrom]
    split_ifs <;> simp only [List.length_singleton, List.length_nil] <;> omega
  | cons b data ih =>
    obtain ⟨hlength, hleft⟩ := writeSextets_length (withByte val b) (pending + 8)
    have hrest := ih (withByte val b) ((pending + 8) % 6) (by omega)
    change ((writeSextets (withByte val b) (pending + 8)).1 ++
      encodeFrom (withByte val b) (writeSextets (withByte val b) (pending + 8)).2 data).length = _
    rw [List.length_append, hlength, hleft, hrest, List.length_cons]
    omega

end

/-- For byte strings of any length, with accumulators that wrap. -/
theorem b64url_round_trip :
    (∀ data, b64urlDecode (b64urlEncode data) = data ∧
      (b64urlEncode data).length = (4 * data.length + 2) / 3 ∧
      ∀ c ∈ b64urlEncode data, c ∈ b64urlTable) ∧
    Function.Injective b64urlEncode := by
  refine ⟨fun data => ⟨b64urlDecode_b64urlEncode data, ?_, encodeFrom_mem 0 0 data⟩, ?_⟩
  · rw [b64urlEncode, encodeFrom_length 0 0 data (by norm_num)]
    omega
  · exact Function.LeftInverse.injective b64urlDecode_b64urlEncode

lemma dot_notMem_b64urlEncode (data : List UInt8) : 46 ∉ b64urlEncode data := by
  intro hmem
  have htable := encodeFrom_mem 0 0 data 46 hmem
  exact absurd htable (by decide)

end

variable {key token : List UInt8} {inst : AuthInstance}
  {hmac : List UInt8 → List UInt8 → List UInt8}

lemma splitDot?_append {before : List UInt8} (h : 46 ∉ before) (rest : List UInt8) :
    splitDot? (before ++ 46 :: rest) = some (before, rest) := by
  have hbefore : (before ++ 46 :: rest).takeWhile (· ≠ 46) = before := by
    have hne : ∀ b ∈ before, decide (b ≠ 46) = true := by
      intro b hb
      apply decide_eq_true
      rintro rfl
      exact h hb
    rw [List.takeWhile_append_of_pos hne]
    simp
  rw [splitDot?, afterFirst_symbol h, Option.map_some, hbefore]

lemma verifyJwt_signed (hmac : List UInt8 → List UInt8 → List UInt8) (cfg : AuthConfig)
    (header payload : List UInt8) (now : Int) :
    let signingInput := b64urlEncode header ++ [46] ++ b64urlEncode payload
    verifyJwt hmac cfg (signingInput ++ [46] ++ b64urlEncode (hmac cfg.secret signingInput)) now =
      checkClaims cfg now payload := by
  intro signingInput
  have htoken : signingInput ++ [46] ++ b64urlEncode (hmac cfg.secret signingInput) =
      b64urlEncode header ++ 46 :: (b64urlEncode payload ++
        46 :: b64urlEncode (hmac cfg.secret signingInput)) := by
    simp [signingInput]
  rw [htoken, verifyJwt, splitDot?_append (dot_notMem_b64urlEncode header)]
  simp only [splitDot?_append (dot_notMem_b64urlEncode payload), b64urlDecode_b64urlEncode]
  rw [if_neg (not_not.mpr rfl)]

section Search

/-- A name that the search for members can tell from other text. -/
structure MemberName (key : List UInt8) : Prop where
  plain : PlainWord key
  nonempty : key ≠ []
  letters : ∀ b ∈ key, 58 < b
  tokens : ∀ token ∈ dumpTokens, token = [] ∨ ¬token <+: key

instance decidableMemberName (key : List UInt8) : Decidable (MemberName key) :=
  haveI := List.decidableBAll (fun b : UInt8 => 58 < b) key
  decidable_of_iff (PlainWord key ∧ key ≠ [] ∧ (∀ b ∈ key, 58 < b) ∧
      ∀ token ∈ dumpTokens, token = [] ∨ ¬token <+: key)
    ⟨fun ⟨h1, h2, h3, h4⟩ => ⟨h1, h2, h3, h4⟩, fun h => ⟨h.plain, h.nonempty, h.letters, h.tokens⟩⟩

def Apart (key : List UInt8) (since : Option (List UInt8)) : Prop :=
  ∀ w, since = some w → w = [] ∨ ¬w <+: key

def Reads (key text : List UInt8) (strings : List (List UInt8)) : Prop :=
  ∀ state, Apart key state.2 →
    Apart key (scan 34 key state text).2 ∧
      ((scan 34 key state text).1 = true ↔ state.1 = true ∨ ∃ s ∈ strings, EndsLike key s)

variable {key text rest : List UInt8} {strings more : List (List UInt8)}

lemma Apart.ne_key (hkey : MemberName key) {since : Option (List UInt8)} (h : Apart key since) :
    since ≠ some key := by
  intro heq
  rcases h key heq with hnil | hstarts
  · exact hkey.nonempty hnil
  · exact hstarts List.prefix_rfl

lemma reads_plain (hquote : 34 ∉ text) (hstart : text = [] ∨ ¬text <+: key) : Reads key text [] := by
  intro state hstate
  rw [scan_of_notMem state hquote]
  refine ⟨?_, by simp⟩
  intro w hw
  obtain ⟨old, hold, rfl⟩ := Option.map_eq_some_iff.mp hw
  rcases hstate old hold with rfl | hstarts
  · exact hstart
  · exact .inr fun happend => hstarts ((List.prefix_append old text).trans happend)

lemma reads_token (hkey : MemberName key) (htoken : text ∈ dumpTokens) : Reads key text [] := by
  have hquote : ∀ token ∈ dumpTokens, (34 : UInt8) ∉ token := by decide
  exact reads_plain (hquote text htoken) (hkey.tokens text htoken)

lemma reads_number (hkey : MemberName key) (hquote : 34 ∉ text) {b : UInt8} (hb : b ∈ text)
    (hdigit : b ≤ 57) : Reads key text [] := by
  refine reads_plain hquote (.inr fun hstarts => ?_)
  have hletter := UInt8.lt_of_lt_of_le (hkey.letters b (hstarts.subset hb)) hdigit
  exact absurd hletter (by decide)

lemma reads_string (hkey : MemberName key) (s : List UInt8) : Reads key (quotedBytes s) [s] := by
  intro state hstate
  rw [quotedBytes, scan_quoted hkey.plain (hstate.ne_key hkey)]
  refine ⟨?_, by simp⟩
  rintro w ⟨⟩
  exact .inl rfl

lemma Reads.append (h : Reads key text strings) (hrest : Reads key rest more) :
    Reads key (text ++ rest) (strings ++ more) := by
  intro state hstate
  obtain ⟨hmid, hfound⟩ := h state hstate
  obtain ⟨hend, hfound'⟩ := hrest _ hmid
  rw [scan_append]
  refine ⟨hend, ?_⟩
  rw [hfound', hfound, or_assoc]
  simp [or_and_right, exists_or]

lemma Reads.not_found (h : Reads key text strings) (hnone : ∀ s ∈ strings, ¬EndsLike key s) :
    (scan 34 key (false, none) text).1 = false ∧ Apart key (scan 34 key (false, none) text).2 := by
  obtain ⟨hapart, hfound⟩ := h (false, none) (fun w hw => by cases hw)
  refine ⟨?_, hapart⟩
  rw [Bool.eq_false_iff, Ne, hfound]
  rintro (hfalse | ⟨s, hs, hends⟩)
  · cases hfalse
  · exact hnone s hs hends

end Search

section Members

variable {key before value : List UInt8} {strings : List (List UInt8)}

lemma valueAfter?_member (hkey : MemberName key) (h : Reads key before strings)
    (hnone : ∀ s ∈ strings, ¬EndsLike key s) :
    valueAfter? (before ++ (34 :: key ++ [34]) ++ 58 :: value) key = some (afterBlanks value) := by
  obtain ⟨hfound, hapart⟩ := h.not_found hnone
  have hquote : (scan 34 key (false, none) (before ++ [34])).1 = false := by
    simp [scan, scanStep] at hfound ⊢
    exact ⟨hfound, hapart.ne_key hkey⟩
  rw [valueAfter?, afterFirst_delimited hkey.plain.quote_notMem hquote, Option.bind_some]
  have hcolon : afterFirst [58] ([] ++ 58 :: value) = some value :=
    afterFirst_symbol List.not_mem_nil
  exact congrArg (Option.map afterBlanks) hcolon

variable {text : List UInt8}

lemma scan_found_of_append {state : Bool × Option (List UInt8)} {rest : List UInt8}
    (h : (scan 34 key state (text ++ rest)).1 = false) : (scan 34 key state text).1 = false := by
  rw [scan_append] at h
  generalize scan 34 key state text = mid at h ⊢
  induction rest generalizing mid with
  | nil => exact h
  | cons b rest ih =>
    have hmid := ih _ h
    rw [scanStep] at hmid
    split_ifs at hmid
    · exact (Bool.or_eq_false_iff.mp hmid).1
    · exact hmid

lemma suffix_of_endsLike (hkey : PlainWord key) {s : List UInt8} (h : EndsLike key s) :
    34 :: key <:+ 34 :: s.flatMap escapeByte := by
  obtain ⟨front, hfront⟩ := h
  have hescaped := congrArg (List.flatMap escapeByte) hfront
  have hword : (34 :: key).flatMap escapeByte = 92 :: 34 :: key := by
    rw [List.flatMap_cons, (escaped_eq_word_iff hkey key).mpr rfl]
    rfl
  rw [List.flatMap_append, hword, List.flatMap_cons] at hescaped
  cases front with
  | nil =>
    cases hfront
    rw [(escaped_eq_word_iff hkey key).mpr rfl]
  | cons b front =>
    have hquote : b = 34 := by
      injection hfront
    subst hquote
    have htail : front.flatMap escapeByte ++ 92 :: 34 :: key = s.flatMap escapeByte := by
      have hsame : [92, 34] ++ (front.flatMap escapeByte ++ 92 :: 34 :: key) =
          [92, 34] ++ s.flatMap escapeByte := hescaped
      exact List.append_cancel_left hsame
    rw [← htail]
    exact (List.suffix_append (front.flatMap escapeByte ++ [92]) (34 :: key)).trans
      (by simp)

variable (hkey : MemberName key) (h : Reads key before strings)
include hkey h

/-- A string that ends like the key is found first, and what is read stands behind the next colon. -/
lemma valueAfter?_early
    (hnone : ∀ s ∈ strings, ¬EndsLike key s) {s between : List UInt8} (hends : EndsLike key s)
    (hbetween : 58 ∉ between) :
    valueAfter? (before ++ quotedBytes s ++ between ++ 58 :: value) key =
      some (afterBlanks value) := by
  obtain ⟨hfound, hapart⟩ := h.not_found hnone
  obtain ⟨front, hfront⟩ := suffix_of_endsLike hkey.plain hends
  have hinside : (scan 34 key (false, none) (before ++ 34 :: s.flatMap escapeByte)).1 = false := by
    have hopen : scan 34 key (scan 34 key (false, none) before) [34] =
        (false, some ([].flatMap escapeByte)) := by
      simp [scan, scanStep] at hfound hapart ⊢
      exact ⟨hfound, hapart.ne_key hkey⟩
    have hescaped := scan_escaped hkey.plain false false [] s
    rw [List.append_cons, scan_append, scan_append, hopen, hescaped]
  rw [← hfront, List.append_cons, ← List.append_assoc, ← List.append_assoc] at hinside
  have hquote := scan_found_of_append hinside
  have htext : before ++ quotedBytes s ++ between ++ 58 :: value =
      before ++ front ++ (34 :: key ++ [34]) ++ (between ++ 58 :: value) := by
    have hstring : quotedBytes s = front ++ (34 :: key ++ [34]) := by
      rw [quotedBytes, List.singleton_append, ← hfront, List.append_assoc]
    rw [hstring]
    simp
  rw [htext, valueAfter?, afterFirst_delimited hkey.plain.quote_notMem hquote, Option.bind_some,
    afterFirst_symbol hbetween]
  rfl

lemma valueAfter?_next
    (hnone : ∀ s ∈ strings, ¬EndsLike key s) (s : List UInt8) :
    valueAfter? (before ++ quotedBytes s ++ [44] ++ (34 :: key ++ [34]) ++ 58 :: value) key =
      some (afterBlanks value) := by
  by_cases hends : EndsLike key s
  · have hnot : (58 : UInt8) ∉ key := fun hmem => absurd (hkey.letters 58 hmem) (by decide)
    have hearly : valueAfter? (before ++ quotedBytes s ++ ([44] ++ (34 :: key ++ [34])) ++
        58 :: value) key = some (afterBlanks value) :=
      valueAfter?_early hkey h hnone hends (by simp [hnot])
    rwa [← List.append_assoc] at hearly
  · have hcomma : Reads key [44] [] := reads_token hkey (by decide)
    have hstring := (h.append (reads_string hkey s)).append hcomma
    refine valueAfter?_member hkey hstring ?_
    simpa [or_imp, forall_and] using ⟨hnone, hends⟩

end Members

section Payload

lemma escapeChar_eq (c : UInt8) : escapeChar c = escapeByte c := by
  have hall : ∀ n : Fin 256, escapeChar (UInt8.ofNat n) = escapeByte (UInt8.ofNat n) := by
    decide +kernel
  have hc := hall ⟨c.toNat, c.toNat_lt⟩
  rwa [UInt8.ofNat_toNat] at hc

lemma jsonEscape_eq (s : List UInt8) : jsonEscape s = s.flatMap escapeByte :=
  List.flatMap_congr fun c _ => escapeChar_eq c

lemma bytesOf_append (s t : String) : bytesOf (s ++ t) = bytesOf s ++ bytesOf t := by
  rw [bytesOf, String.toList_append, List.map_append]
  rfl

lemma optionalMember_eq (name : String) {value : List UInt8} (h : value ≠ []) :
    optionalMember name value =
      [44] ++ (34 :: bytesOf name ++ [34]) ++ 58 :: quotedBytes value := by
  have hopen : bytesOf ",\"" = [44, 34] := by decide
  have hcolon : bytesOf "\":\"" = [34, 58, 34] := by decide
  have hclose : bytesOf "\"" = [34] := by decide
  rw [optionalMember, if_neg h, bytesOf_append, bytesOf_append, hopen, hcolon, hclose, jsonEscape_eq,
    quotedBytes]
  simp

def payloadTail (cfg : AuthConfig) : List UInt8 :=
  optionalMember "iss" cfg.issuer ++ optionalMember "aud" cfg.audience ++ [125]

def beforeUser : List UInt8 := [123] ++ (quotedBytes (bytesOf "sub") ++ [58])

variable (cfg : AuthConfig) (userId : List UInt8) (now expiry : Int)

def beforeExp : List UInt8 :=
  beforeUser ++ (quotedBytes userId ++ [44]) ++ (quotedBytes (bytesOf "iat") ++ [58]) ++
    (bytesOf (toString now) ++ [44])

def beforeTail : List UInt8 :=
  beforeExp userId now ++ (quotedBytes (bytesOf "exp") ++ [58]) ++
    (bytesOf (toString expiry) ++ [44])

lemma payloadJson_sub :
    payloadJson cfg userId now expiry =
      [123] ++ (34 :: bytesOf "sub" ++ [34]) ++ 58 :: (quotedBytes userId ++
        ([44] ++ (34 :: bytesOf "iat" ++ [34]) ++ 58 :: (bytesOf (toString now) ++
          ([44] ++ (34 :: bytesOf "exp" ++ [34]) ++ 58 :: (bytesOf (toString expiry) ++
            payloadTail cfg))))) := by
  have hsub : bytesOf "\x7b\"sub\":\"" = [123] ++ (34 :: bytesOf "sub" ++ [34]) ++ [58, 34] := by
    decide
  have hquote : bytesOf "\"" = [34] := by decide
  have hiat : bytesOf ",\"iat\":" = [44] ++ (34 :: bytesOf "iat" ++ [34]) ++ [58] := by decide
  have hexp : bytesOf ",\"exp\":" = [44] ++ (34 :: bytesOf "exp" ++ [34]) ++ [58] := by decide
  have hbrace : bytesOf "\x7d" = [125] := by decide
  rw [payloadJson, hsub, hquote, hiat, hexp, hbrace, jsonEscape_eq, payloadTail, quotedBytes]
  simp

lemma beforeUser_eq : beforeUser = [123] ++ (34 :: bytesOf "sub" ++ [34]) ++ [58] := by decide

lemma payloadJson_iat :
    payloadJson cfg userId now expiry =
      beforeUser ++ quotedBytes userId ++ [44] ++ (34 :: bytesOf "iat" ++ [34]) ++
        58 :: (bytesOf (toString now) ++ ([44] ++ (34 :: bytesOf "exp" ++ [34]) ++
          58 :: (bytesOf (toString expiry) ++ payloadTail cfg))) := by
  rw [payloadJson_sub, beforeUser_eq]
  simp

lemma payloadJson_exp :
    payloadJson cfg userId now expiry =
      beforeExp userId now ++ (34 :: bytesOf "exp" ++ [34]) ++
        58 :: (bytesOf (toString expiry) ++ payloadTail cfg) := by
  have hiat : quotedBytes (bytesOf "iat") = 34 :: bytesOf "iat" ++ [34] := by decide
  rw [payloadJson_iat, beforeExp, hiat]
  simp

lemma payloadJson_tail {tail : List UInt8} (h : payloadTail cfg = [44] ++ tail) :
    payloadJson cfg userId now expiry = beforeTail userId now expiry ++ tail := by
  have hexp : quotedBytes (bytesOf "exp") = 34 :: bytesOf "exp" ++ [34] := by decide
  rw [payloadJson_exp, h, beforeTail, hexp]
  simp

section Strings

variable (hkey : MemberName key)

include hkey

lemma reads_name (name : List UInt8) : Reads key (quotedBytes name ++ [58]) [name] :=
  (reads_string hkey name).append (reads_token hkey (by decide))

lemma reads_integer (n : Int) : Reads key (bytesOf (toString n) ++ [44]) [] := by
  have hquote : 34 ∉ bytesOf (toString n) := fun hmem => (plain_integer n 34 hmem).1 rfl
  have hnumber : 34 ∉ bytesOf (toString n) ++ [44] := by
    simpa using hquote
  exact reads_number hkey hnumber (List.mem_append_right _ List.mem_cons_self) (by decide)

lemma reads_beforeUser : Reads key beforeUser [bytesOf "sub"] :=
  (reads_token hkey (by decide)).append (reads_name hkey _)

lemma reads_beforeExp : Reads key (beforeExp userId now) [bytesOf "sub", userId, bytesOf "iat"] :=
  (((reads_beforeUser hkey).append ((reads_string hkey userId).append
    (reads_token hkey (by decide)))).append (reads_name hkey _)).append (reads_integer hkey now)

lemma reads_beforeTail : Reads key (beforeTail userId now expiry)
    [bytesOf "sub", userId, bytesOf "iat", bytesOf "exp"] :=
  ((reads_beforeExp userId now hkey).append (reads_name hkey _)).append (reads_integer hkey expiry)

end Strings

end Payload

section Claims

/-- What a configuration and a user id must be for the claims of a token to be read as they were
written, at every time up to its expiry: the leeway is not negative, no text has control characters,
and the user id does not end like the name of a claim that stands behind it, except like `exp` if the
leeway outlasts the token. -/
structure ReadableToken (cfg : AuthConfig) (userId : List UInt8) : Prop where
  leeway : 0 ≤ cfg.leewaySeconds
  printable : ∀ text ∈ [userId, cfg.issuer, cfg.audience], ∀ b ∈ text, 32 ≤ b
  exp : EndsLike (bytesOf "exp") userId → cfg.tokenTtlSeconds ≤ cfg.leewaySeconds
  iss : cfg.issuer ≠ [] → ¬EndsLike (bytesOf "iss") userId
  aud : cfg.audience ≠ [] → ¬EndsLike (bytesOf "aud") userId

/-- What the checks of `verify_jwt` come to at a time before the expiry. -/
structure ReadAt (cfg : AuthConfig) (userId : List UInt8) (now expiry later : Int) : Prop where
  unexpired : later ≤ (if EndsLike (bytesOf "exp") userId then now else expiry) + cfg.leewaySeconds
  begun : now ≤ later + cfg.leewaySeconds
  iss : cfg.issuer ≠ [] → ¬EndsLike (bytesOf "iss") userId
  aud : cfg.audience ≠ [] → ¬EndsLike (bytesOf "aud") userId
  printable : ∀ text ∈ [userId, cfg.issuer, cfg.audience], ∀ b ∈ text, 32 ≤ b

variable (cfg : AuthConfig) (userId : List UInt8) (now expiry : Int)

lemma payload_sub_iff : jsonGetString (payloadJson cfg userId now expiry) (bytesOf "sub") = userId ↔
    ∀ b ∈ userId, 32 ≤ b := by
  rw [payloadJson_sub]
  exact jsonGetString_iff (valueAfter?_member (by decide +kernel)
    (reads_token (by decide +kernel) (by decide)) (by simp))

variable {now expiry} in
lemma payload_iat (hnow : -2 ^ 63 < now ∧ now < 2 ^ 63) :
    jsonGetInt (payloadJson cfg userId now expiry) (bytesOf "iat") = some now := by
  rw [payloadJson_iat]
  refine jsonGetInt_eq hnow (by simp) (valueAfter?_next
    (by decide +kernel) (reads_beforeUser (by decide +kernel)) (by decide) userId)

variable {userId} in
/-- A user id that ends like the key is taken for it, and the time of creation for its value. -/
lemma payload_mistaken (hkey : MemberName key) (hsub : ¬EndsLike key (bytesOf "sub"))
    (hends : EndsLike key userId) :
    ∃ rest, rest.head? = some 44 ∧ valueAfter? (payloadJson cfg userId now expiry) key =
      some (afterBlanks (bytesOf (toString now) ++ rest)) := by
  refine ⟨[44] ++ (34 :: bytesOf "exp" ++ [34]) ++ 58 :: (bytesOf (toString expiry) ++
    payloadTail cfg), rfl, ?_⟩
  rw [payloadJson_iat, List.append_assoc (beforeUser ++ quotedBytes userId)]
  exact valueAfter?_early hkey (reads_beforeUser hkey) (by simpa using hsub) hends (by decide)

lemma payloadTail_head : ∀ b ∈ (payloadTail cfg).head?, ¬(48 ≤ b ∧ b ≤ 57) := by
  have hmember : ∀ name value, optionalMember name value = [] ∨
      (optionalMember name value).head? = some 44 := by
    intro name value
    by_cases hvalue : value = []
    · exact .inl (if_pos hvalue)
    · exact .inr (by rw [optionalMember_eq name hvalue]; rfl)
  intro b hb
  rw [payloadTail] at hb
  rcases hmember "iss" cfg.issuer with hiss | hiss
  · rcases hmember "aud" cfg.audience with haud | haud
    · rw [hiss, haud] at hb
      cases hb
      decide
    · simp [hiss, haud] at hb
      subst hb
      decide
  · simp [hiss] at hb
    subst hb
    decide

variable {now expiry} in
lemma payload_exp (hnow : -2 ^ 63 < now ∧ now < 2 ^ 63)
    (hexpiry : -2 ^ 63 < expiry ∧ expiry < 2 ^ 63) :
    jsonGetInt (payloadJson cfg userId now expiry) (bytesOf "exp") =
      some (if EndsLike (bytesOf "exp") userId then now else expiry) := by
  by_cases hends : EndsLike (bytesOf "exp") userId
  · obtain ⟨rest, hhead, hvalue⟩ := payload_mistaken cfg now expiry (by decide +kernel)
      (by decide) hends
    rw [if_pos hends]
    refine jsonGetInt_eq hnow ?_ hvalue
    rw [hhead]
    rintro b ⟨⟩
    decide
  · rw [if_neg hends, payloadJson_exp]
    refine jsonGetInt_eq hexpiry (payloadTail_head cfg) (valueAfter?_member
      (by decide +kernel) (reads_beforeExp userId now (by decide +kernel)) ?_)
    have hsub : ¬EndsLike (bytesOf "exp") (bytesOf "sub") := by decide
    have hiat : ¬EndsLike (bytesOf "exp") (bytesOf "iat") := by decide
    simp [hsub, hiat, hends]

variable {userId} in
lemma tail_strings (huser : ¬EndsLike key userId)
    (hnames : ∀ name ∈ [bytesOf "sub", bytesOf "iat", bytesOf "exp"], ¬EndsLike key name) :
    ∀ s ∈ [bytesOf "sub", userId, bytesOf "iat", bytesOf "exp"], ¬EndsLike key s := by
  simp only [List.mem_cons, List.not_mem_nil, or_false, forall_eq_or_imp, forall_eq] at hnames ⊢
  exact ⟨hnames.1, huser, hnames.2⟩

variable {userId} in
/-- No text is read where a number stands. -/
lemma payload_mistaken_text (hkey : MemberName key) (hsub : ¬EndsLike key (bytesOf "sub"))
    (hends : EndsLike key userId) :
    jsonGetString (payloadJson cfg userId now expiry) key = [] := by
  obtain ⟨rest, -, hvalue⟩ := payload_mistaken cfg now expiry hkey hsub hends
  rw [jsonGetString_nil_iff, hvalue, afterBlanks_integer]
  rintro text ⟨⟩ hquote
  cases htext : bytesOf (toString now) with
  | nil => exact absurd htext (integerText_ne_nil now)
  | cons b tail =>
    rw [htext, List.cons_append, List.head?_cons, Option.some.injEq] at hquote
    exact absurd hquote (plain_integer now b (htext ▸ List.mem_cons_self)).1

lemma payload_iss_iff (hissuer : cfg.issuer ≠ []) :
    jsonGetString (payloadJson cfg userId now expiry) (bytesOf "iss") = cfg.issuer ↔
      ¬EndsLike (bytesOf "iss") userId ∧ ∀ b ∈ cfg.issuer, 32 ≤ b := by
  by_cases hends : EndsLike (bytesOf "iss") userId
  · rw [payload_mistaken_text cfg now expiry (by decide +kernel) (by decide) hends]
    simp [hends, Ne.symm hissuer]
  have htail : payloadTail cfg = [44] ++ ((34 :: bytesOf "iss" ++ [34]) ++
      58 :: (quotedBytes cfg.issuer ++ (optionalMember "aud" cfg.audience ++ [125]))) := by
    rw [payloadTail, optionalMember_eq "iss" hissuer]
    simp
  rw [payloadJson_tail cfg userId now expiry htail, ← List.append_assoc, and_iff_right hends]
  exact jsonGetString_iff (valueAfter?_member (by decide +kernel)
    (reads_beforeTail userId now expiry (by decide +kernel)) (tail_strings hends (by decide)))

lemma payload_aud_iff (haudience : cfg.audience ≠ []) :
    jsonGetString (payloadJson cfg userId now expiry) (bytesOf "aud") = cfg.audience ↔
      ¬EndsLike (bytesOf "aud") userId ∧ ∀ b ∈ cfg.audience, 32 ≤ b := by
  have haud : MemberName (bytesOf "aud") := by decide +kernel
  by_cases hends : EndsLike (bytesOf "aud") userId
  · rw [payload_mistaken_text cfg now expiry haud (by decide) hends]
    simp [hends, Ne.symm haudience]
  have hstrings := tail_strings hends (by decide)
  have hreads := reads_beforeTail userId now expiry haud
  rw [and_iff_right hends]
  by_cases hissuer : cfg.issuer = []
  · have htail : payloadTail cfg = [44] ++ ((34 :: bytesOf "aud" ++ [34]) ++
        58 :: (quotedBytes cfg.audience ++ [125])) := by
      rw [payloadTail, optionalMember_eq "aud" haudience, optionalMember, if_pos hissuer]
      simp
    rw [payloadJson_tail cfg userId now expiry htail, ← List.append_assoc]
    exact jsonGetString_iff (valueAfter?_member haud hreads hstrings)
  · -- an issuer that ends like the name stands right before the member
    have htail : payloadTail cfg = [44] ++ ((quotedBytes (bytesOf "iss") ++ [58]) ++
        quotedBytes cfg.issuer ++ [44] ++ (34 :: bytesOf "aud" ++ [34]) ++
          58 :: (quotedBytes cfg.audience ++ [125])) := by
      have hiss : quotedBytes (bytesOf "iss") = 34 :: bytesOf "iss" ++ [34] := by decide
      rw [payloadTail, optionalMember_eq "iss" hissuer, optionalMember_eq "aud" haudience, hiss]
      simp
    have hname : ∀ s ∈ [bytesOf "sub", userId, bytesOf "iat", bytesOf "exp"] ++ [bytesOf "iss"],
        ¬EndsLike (bytesOf "aud") s :=
      List.forall_mem_append.mpr ⟨hstrings, by decide⟩
    rw [payloadJson_tail cfg userId now expiry htail]
    have hvalue : valueAfter? (beforeTail userId now expiry ++ (quotedBytes (bytesOf "iss") ++ [58]) ++
        quotedBytes cfg.issuer ++ [44] ++ (34 :: bytesOf "aud" ++ [34]) ++
          58 :: (quotedBytes cfg.audience ++ [125])) (bytesOf "aud") =
        some (afterBlanks (quotedBytes cfg.audience ++ [125])) :=
      valueAfter?_next haud (hreads.append (reads_name haud _)) hname cfg.issuer
    refine jsonGetString_iff (Eq.trans ?_ hvalue)
    simp

variable {cfg userId now expiry}

lemma checkClaims_ok {later : Int} {payload : List UInt8} :
    checkClaims cfg later payload = some (.ok userId) ↔
      isExpired cfg later payload = some false ∧ isEarly cfg later payload = some false ∧
      isForeign payload "iss" cfg.issuer = false ∧ isForeign payload "aud" cfg.audience = false ∧
      jsonGetString payload (bytesOf "sub") = userId ∧ userId ≠ [] := by
  rw [checkClaims]
  rcases isExpired cfg later payload with _ | _ | _ <;>
    rcases isEarly cfg later payload with _ | _ | _ <;>
    cases isForeign payload "iss" cfg.issuer <;> cases isForeign payload "aud" cfg.audience <;>
    simp
  by_cases hnone : jsonGetString payload (bytesOf "sub") = []
  · rw [if_pos hnone, hnone]
    simp
  · rw [if_neg hnone]
    simp only [Option.some.injEq, Except.ok.injEq]
    exact ⟨fun h => ⟨h, h ▸ hnone⟩, fun h => h.1⟩

section Times

variable {later : Int} {payload : List UInt8}

lemma int64?_late (n limit : Int) :
    ((int64? n).bind fun sum => some (decide (sum < limit))) = some false ↔
      (-2 ^ 63 ≤ n ∧ n < 2 ^ 63) ∧ limit ≤ n := by
  rw [int64?]
  split_ifs with hrange
  · rw [Option.bind_some, Option.some.injEq, decide_eq_false_iff_not, not_lt]
    exact (and_iff_right hrange).symm
  · simp only [Option.bind_none, reduceCtorEq, false_iff]
    exact fun h => hrange h.1

lemma isExpired_false : isExpired cfg later payload = some false ↔
    ∃ exp, jsonGetInt payload (bytesOf "exp") = some exp ∧
      (exp ≠ 0 → (-2 ^ 63 ≤ exp + cfg.leewaySeconds ∧ exp + cfg.leewaySeconds < 2 ^ 63) ∧
        later ≤ exp + cfg.leewaySeconds) := by
  rw [isExpired]
  cases jsonGetInt payload (bytesOf "exp") with
  | none => simp
  | some exp =>
    simp only [Option.bind_eq_bind, Option.bind_some, Option.some.injEq, exists_eq_left']
    by_cases hzero : exp = 0
    · simp [hzero]
    · rw [if_neg hzero]
      exact (int64?_late _ _).trans (by simp [hzero])

lemma isEarly_false : isEarly cfg later payload = some false ↔
    ∃ iat, jsonGetInt payload (bytesOf "iat") = some iat ∧
      (iat ≠ 0 → (-2 ^ 63 ≤ later + cfg.leewaySeconds ∧ later + cfg.leewaySeconds < 2 ^ 63) ∧
        iat ≤ later + cfg.leewaySeconds) := by
  rw [isEarly]
  cases jsonGetInt payload (bytesOf "iat") with
  | none => simp
  | some iat =>
    simp only [Option.bind_eq_bind, Option.bind_some, Option.some.injEq, exists_eq_left']
    by_cases hzero : iat = 0
    · simp [hzero]
    · rw [if_neg hzero]
      exact (int64?_late _ _).trans (by simp [hzero])

end Times

/-- A member that is not asked for is not looked at. -/
lemma isForeign_iff {payload text : List UInt8} {name : String} {apart : Prop}
    (h : text ≠ [] →
      (jsonGetString payload (bytesOf name) = text ↔ apart ∧ ∀ b ∈ text, 32 ≤ b)) :
    isForeign payload name text = false ↔ (text ≠ [] → apart) ∧ ∀ b ∈ text, 32 ≤ b := by
  by_cases hnone : text = []
  · simp [isForeign, hnone]
  · simp only [isForeign, ne_eq, hnone, not_false_eq_true, true_and, decide_eq_false_iff_not,
      not_not, h hnone, true_imp_iff]

lemma checkClaims_payload {later : Int} (hne : userId ≠ []) (hnow : 0 < now) (hexpiry : now ≤ expiry)
    (hleeway : -2 ^ 31 ≤ cfg.leewaySeconds) (hclock : expiry + max 0 cfg.leewaySeconds < 2 ^ 63)
    (hlater : now ≤ later ∧ later ≤ expiry) :
    checkClaims cfg later (payloadJson cfg userId now expiry) = some (.ok userId) ↔
      ReadAt cfg userId now expiry later := by
  have hread := payload_exp cfg userId (show -2 ^ 63 < now ∧ now < 2 ^ 63 by omega)
    (show -2 ^ 63 < expiry ∧ expiry < 2 ^ 63 by omega)
  have hexpired : isExpired cfg later (payloadJson cfg userId now expiry) = some false ↔
      later ≤ (if EndsLike (bytesOf "exp") userId then now else expiry) + cfg.leewaySeconds := by
    simp only [isExpired_false, hread, Option.some.injEq, exists_eq_left']
    split_ifs <;> omega
  have hearly : isEarly cfg later (payloadJson cfg userId now expiry) = some false ↔
      now ≤ later + cfg.leewaySeconds := by
    rw [isEarly_false, payload_iat cfg userId (by omega)]
    simp only [ Option.some.injEq, exists_eq_left']
    omega
  rw [checkClaims_ok, hexpired, hearly, isForeign_iff (payload_iss_iff cfg userId now expiry),
    isForeign_iff (payload_aud_iff cfg userId now expiry), payload_sub_iff]
  constructor
  · rintro ⟨hunexpired, hbegun, ⟨hiss, hissuer⟩, ⟨haud, haudience⟩, huser, -⟩
    exact ⟨hunexpired, hbegun, hiss, haud, by simpa using ⟨huser, hissuer, haudience⟩⟩
  · rintro ⟨hunexpired, hbegun, hiss, haud, hprintable⟩
    exact ⟨hunexpired, hbegun, ⟨hiss, hprintable _ (by simp)⟩, ⟨haud, hprintable _ (by simp)⟩,
      hprintable _ (by simp), hne⟩

end Claims

/-- From its creation to its expiry a token verifies and gives back the user id it was made for, if
and only if the claims are readable. The clock is after 1970, and the times stay within 64 bits. -/
theorem token_identity (hmac : List UInt8 → List UInt8 → List UInt8) {cfg : AuthConfig}
    {userId : List UInt8} {now : Int} (hne : userId ≠ []) (hnow : 0 < now)
    (httl : 0 ≤ cfg.tokenTtlSeconds) (hleeway : -2 ^ 31 ≤ cfg.leewaySeconds)
    (hclock : now + cfg.tokenTtlSeconds + max 0 cfg.leewaySeconds < 2 ^ 63) :
    (∀ later, now ≤ later → later ≤ now + cfg.tokenTtlSeconds →
      ∃ token, createJwt hmac cfg userId now = some token ∧
        verifyJwt hmac cfg token later = some (.ok userId)) ↔ ReadableToken cfg userId := by
  have hexpiry : int64? (now + cfg.tokenTtlSeconds) = some (now + cfg.tokenTtlSeconds) :=
    if_pos (by omega)
  have hverify : ∀ later, now ≤ later → later ≤ now + cfg.tokenTtlSeconds →
      ((∃ token, createJwt hmac cfg userId now = some token ∧
        verifyJwt hmac cfg token later = some (.ok userId)) ↔
          ReadAt cfg userId now (now + cfg.tokenTtlSeconds) later) := by
    intro later hafter hbefore
    rw [createJwt, hexpiry, Option.map_some]
    simp only [Option.some.injEq, exists_eq_left', verifyJwt_signed]
    exact checkClaims_payload hne hnow (by omega) hleeway hclock ⟨hafter, hbefore⟩
  constructor
  · intro h
    have hfirst := (hverify now le_rfl (by omega)).mp (h now le_rfl (by omega))
    have hlast := ((hverify (now + cfg.tokenTtlSeconds) (by omega) le_rfl).mp
      (h _ (by omega) le_rfl)).unexpired
    have hbegun := hfirst.begun
    refine ⟨by omega, hfirst.printable, fun hends => ?_, hfirst.iss, hfirst.aud⟩
    rw [if_pos hends] at hlast
    omega
  · intro h later hafter hbefore
    have hpositive := h.leeway
    refine (hverify later hafter hbefore).mpr ⟨?_, by omega, h.iss, h.aud, h.printable⟩
    split_ifs with hends
    · have hlong := h.exp hends
      omega
    · omega

def toyHmac (key msg : List UInt8) : List UInt8 :=
  [UInt8.ofNat key.length, (key ++ msg).foldl (· + ·) 7]

def exampleConfig : AuthConfig :=
  { secret := bytesOf "k", issuer := bytesOf "shield", audience := bytesOf "game" }

/-- A user whose name ends like `iat`, and one whose name ends like `exp` with a token that ends
within the leeway. -/
theorem token_identity_bob :
    (∃ token, createJwt toyHmac exampleConfig (bytesOf "bob \"iat") 1000 = some token ∧
      verifyJwt toyHmac exampleConfig token 4600 = some (.ok (bytesOf "bob \"iat"))) ∧
    ∃ token, createJwt toyHmac { exampleConfig with tokenTtlSeconds := 30 } (bytesOf "exp") 1000 =
        some token ∧
      verifyJwt toyHmac { exampleConfig with tokenTtlSeconds := 30 } token 1030 =
        some (.ok (bytesOf "exp")) :=
  ⟨(token_identity toyHmac (by decide) (by decide) (by decide) (by decide) (by decide)).mpr
      ⟨by decide, by decide +kernel, by decide, fun _ => by decide, fun _ => by decide⟩ 4600
      (by decide) (by decide),
    (token_identity toyHmac (by decide) (by decide) (by decide) (by decide) (by decide)).mpr
      ⟨by decide, by decide +kernel, by decide, fun _ => by decide, fun _ => by decide⟩ 1030
      (by decide) (by decide)⟩

/-- A user with the name of a claim has a token that expires too early, and a line break in the user
id is lost. -/
theorem token_identity_lost :
    (createJwt toyHmac exampleConfig (bytesOf "exp") 1000).bind
        (verifyJwt toyHmac exampleConfig · 2000) = some (.error "token_expired") ∧
      (createJwt toyHmac exampleConfig (bytesOf "a\nb") 1000).bind
        (verifyJwt toyHmac exampleConfig · 1000) = some (.ok (bytesOf "anb")) := by
  decide +kernel

/-- The header and the payload of a token. -/
def signedInput? (token : List UInt8) : Option (List UInt8 × List UInt8) :=
  (splitDot? token).bind fun parts => (splitDot? parts.2).map fun rest => (parts.1, rest.1)

section Verify

variable {cfg : AuthConfig} {now : Int}

lemma checkClaims_of_verifyJwt {userId : List UInt8}
    (h : verifyJwt hmac cfg token now = some (.ok userId)) :
    ∃ header payload, signedInput? token = some (header, payload) ∧
      checkClaims cfg now (b64urlDecode payload) = some (.ok userId) := by
  rw [verifyJwt] at h
  cases hheader : splitDot? token with
  | none => simp [hheader] at h
  | some parts =>
    cases hpayload : splitDot? parts.2 with
    | none => simp [hheader, hpayload] at h
    | some rest =>
      simp only [hheader, hpayload] at h
      split_ifs at h with hsignature
      · simp at h
      · exact ⟨parts.1, rest.1, by rw [signedInput?, hheader, Option.bind_some, hpayload]; rfl, h⟩

end Verify

section Calls

variable {out result : AuthResult} {now created stamped : Int}

lemma verifyJwt_of_authenticate (h : inst.authenticate hmac (some token) out now = some (0, result)) :
    ∃ userId, verifyJwt hmac inst.cfg token now = some (.ok userId) := by
  rw [authenticate] at h
  split_ifs at h with hlisted
  · simp at h
  · obtain ⟨answer, hverify, hcode⟩ := Option.map_eq_some_iff.mp h
    cases answer with
    | error => simp at hcode
    | ok userId => exact ⟨userId, hverify⟩

lemma verifyJwt_of_refreshToken
    (h : inst.refreshToken hmac (some token) out now created stamped = some (0, result)) :
    ∃ userId, verifyJwt hmac inst.cfg token now = some (.ok userId) := by
  obtain ⟨answer, hverify, hcode⟩ := Option.bind_eq_some_iff.mp h
  cases answer with
  | error => simp at hcode
  | ok userId => exact ⟨userId, hverify⟩

end Calls

lemma run_blacklisted {last : AuthInstance} {calls : List AuthCall}
    (hrun : run AuthInstance.step inst (.invalidate (some token) :: calls) = some last) :
    token ∈ last.blacklist ∧ last.cfg = inst.cfg := by
  obtain ⟨listed, hlisted, hrest⟩ := run_cons _ hrun
  have hstep : ∀ (s : AuthInstance) (call : AuthCall) (next : AuthInstance),
      token ∈ s.blacklist ∧ s.cfg = inst.cfg → s.step call = some next →
        token ∈ next.blacklist ∧ next.cfg = inst.cfg := by
    rintro s call next ⟨hmem, hcfg⟩ hnext
    cases call with
    | authenticate | refreshToken =>
      exact Option.some.inj hnext ▸ ⟨hmem, hcfg⟩
    | invalidate other =>
      cases Option.some.inj hnext
      cases other with
      | none => exact ⟨hmem, hcfg⟩
      | some => exact ⟨List.mem_cons_of_mem _ hmem, hcfg⟩
  refine reachable_invariant AuthInstance.step hstep ?_ hrest
  cases Option.some.inj hlisted
  exact ⟨List.mem_cons_self, rfl⟩

section Acceptable

variable {cfg : AuthConfig} {payload : List UInt8} {n : Int}

/-- A payload for which there is a time when it passes: it has a subject, the issuer and the audience
that are asked for, and its times with the leeway do not exclude each other. -/
structure Acceptable (cfg : AuthConfig) (payload : List UInt8) : Prop where
  subject : jsonGetString payload (bytesOf "sub") ≠ []
  issuer : cfg.issuer ≠ [] → jsonGetString payload (bytesOf "iss") = cfg.issuer
  audience : cfg.audience ≠ [] → jsonGetString payload (bytesOf "aud") = cfg.audience
  times : ∃ exp iat, jsonGetInt payload (bytesOf "exp") = some exp ∧
    jsonGetInt payload (bytesOf "iat") = some iat ∧
    (exp ≠ 0 → -2 ^ 63 ≤ exp + cfg.leewaySeconds ∧ exp + cfg.leewaySeconds < 2 ^ 63) ∧
    (exp = 0 ∨ iat = 0 ∨ iat - cfg.leewaySeconds ≤ exp + cfg.leewaySeconds)

lemma readDigits?_range {v : Int} {text : List UInt8} (hv : 0 ≤ v ∧ v < 2 ^ 63)
    (h : readDigits? v text = some n) : 0 ≤ n ∧ n < 2 ^ 63 := by
  induction text generalizing v with
  | nil => exact Option.some.inj h ▸ hv
  | cons b rest ih =>
    rw [readDigits?] at h
    extract_lets next at h
    split_ifs at h with hdigit hsmall
    · exact ih ⟨by omega, hsmall⟩ h
    · exact Option.some.inj h ▸ hv

lemma jsonGetInt_range (h : jsonGetInt payload key = some n) : -2 ^ 63 ≤ n ∧ n < 2 ^ 63 := by
  unfold jsonGetInt at h
  split at h
  · obtain ⟨m, hm, rfl⟩ := Option.map_eq_some_iff.mp h
    have hrange := readDigits?_range (by decide) hm
    omega
  · have hrange := readDigits?_range (by decide) h
    omega
  · cases h
    decide

lemma exists_checkClaims_iff :
    (∃ now userId, checkClaims cfg now payload = some (.ok userId)) ↔ Acceptable cfg payload := by
  simp only [checkClaims_ok, isExpired_false, isEarly_false]
  constructor
  · rintro ⟨now, userId, ⟨exp, hexp, hlate⟩, ⟨iat, hiat, hearly⟩, hiss, haud, rfl, hsub⟩
    refine ⟨hsub, by simpa [isForeign] using hiss, by simpa [isForeign] using haud, exp, iat, hexp,
      hiat, fun hne => (hlate hne).1, ?_⟩
    by_cases hexpZero : exp = 0
    · exact .inl hexpZero
    by_cases hiatZero : iat = 0
    · exact .inr (.inl hiatZero)
    have hlast := (hlate hexpZero).2
    have hfirst := (hearly hiatZero).2
    exact .inr (.inr (by omega))
  · rintro ⟨hsub, hiss, haud, exp, iat, hexp, hiat, hrange, htimes⟩
    have hbounds := jsonGetInt_range hiat
    -- the first time that is not too early, or the last that is not too late
    refine ⟨if iat = 0 then exp + cfg.leewaySeconds else iat - cfg.leewaySeconds, _,
      ⟨exp, hexp, fun hne => ⟨hrange hne, ?_⟩⟩, ⟨iat, hiat, fun hne => ?_⟩,
      by simpa [isForeign] using hiss, by simpa [isForeign] using haud, rfl, hsub⟩
    · split_ifs <;> omega
    · rw [if_neg hne]
      omega

end Acceptable

section Spelling

variable {now : Int} {header payload : List UInt8}

lemma dot_notMem_of_splitDot? {text before rest : List UInt8}
    (h : splitDot? text = some (before, rest)) : 46 ∉ before := by
  obtain ⟨_, -, heq⟩ := Option.map_eq_some_iff.mp h
  cases heq
  intro hmem
  exact absurd (List.mem_takeWhile_imp hmem) (by decide)

lemma decodeFrom_padded (val : BitVec 32) (pending : Nat) (text : List UInt8) (k : Nat) :
    decodeFrom val pending (text ++ List.replicate k 61) = decodeFrom val pending text := by
  induction text generalizing val pending with
  | nil =>
    induction k with
    | zero => rfl
    | succ k ih => exact ih
  | cons c text ih =>
    simp only [List.cons_append, decodeFrom, ih]

/-- The signed text with a signature that ends in so many characters which are not read. -/
def spelledToken (hmac : List UInt8 → List UInt8 → List UInt8) (secret header payload : List UInt8)
    (k : Nat) : List UInt8 :=
  header ++ 46 :: (payload ++ 46 ::
    (b64urlEncode (hmac secret (header ++ [46] ++ payload)) ++ List.replicate k 61))

lemma spelledToken_injective (hmac : List UInt8 → List UInt8 → List UInt8)
    (secret header payload : List UInt8) :
    Function.Injective (spelledToken hmac secret header payload) := by
  intro k k' h
  have hlength := congrArg List.length h
  simpa [spelledToken] using hlength

variable (hinput : signedInput? token = some (header, payload))

include hinput

lemma dots_of_signedInput? : 46 ∉ header ∧ 46 ∉ payload := by
  obtain ⟨parts, hparts, hrest⟩ := Option.bind_eq_some_iff.mp hinput
  obtain ⟨rest, hsplit, heq⟩ := Option.map_eq_some_iff.mp hrest
  cases heq
  exact ⟨dot_notMem_of_splitDot? hparts, dot_notMem_of_splitDot? hsplit⟩

lemma signedInput?_spelled (hmac : List UInt8 → List UInt8 → List UInt8) (secret : List UInt8) (k : Nat) :
    signedInput? (spelledToken hmac secret header payload k) = some (header, payload) := by
  obtain ⟨hheader, hpayload⟩ := dots_of_signedInput? hinput
  rw [signedInput?, spelledToken, splitDot?_append hheader, Option.bind_some,
    splitDot?_append hpayload]
  rfl

lemma verifyJwt_spelled (cfg : AuthConfig) (k : Nat) :
    verifyJwt hmac cfg (spelledToken hmac cfg.secret header payload k) now =
      checkClaims cfg now (b64urlDecode payload) := by
  obtain ⟨hheader, hpayload⟩ := dots_of_signedInput? hinput
  rw [verifyJwt, spelledToken, splitDot?_append hheader]
  simp only [splitDot?_append hpayload]
  have hsignature : ∀ signature : List UInt8,
      b64urlDecode (b64urlEncode signature ++ List.replicate k 61) = signature := by
    intro signature
    rw [b64urlDecode, decodeFrom_padded]
    exact b64urlDecode_b64urlEncode signature
  rw [if_neg (not_not.mpr (hsignature _).symm)]

end Spelling

def noResult : AuthResult := ⟨0, none, none, none, none, 0, none, none⟩

/-- After a token has been invalidated, and any further calls, no text with its header and payload is
accepted or refreshed at any time if and only if there is no time when the payload would be. The
text itself is not accepted. -/
theorem revoked_token_refused (hmac : List UInt8 → List UInt8 → List UInt8)
    {inst last : AuthInstance} {token : List UInt8} {calls : List AuthCall}
    (hrun : run AuthInstance.step inst (.invalidate (some token) :: calls) = some last) :
    ((∀ other, signedInput? other = signedInput? token →
        (∀ out now result, last.authenticate hmac (some other) out now ≠ some (0, result)) ∧
        ∀ out now created stamped result,
          last.refreshToken hmac (some other) out now created stamped ≠ some (0, result)) ↔
      ∀ header payload, signedInput? token = some (header, payload) →
        ¬Acceptable inst.cfg (b64urlDecode payload)) ∧
    ∀ out now, last.authenticate hmac (some token) out now =
      some (-1, { out with
        success := 0
        errorCode := some "token_revoked"
        errorMsg := some "token has been invalidated" }) := by
  obtain ⟨hlisted, hcfg⟩ := run_blacklisted hrun
  refine ⟨⟨?_, ?_⟩, fun out now => by rw [authenticate, if_pos hlisted]⟩
  · intro h header payload hinput hacceptable
    obtain ⟨now, userId, hcheck⟩ := exists_checkClaims_iff.mpr hacceptable
    -- one of the spellings of the signature is not in the blacklist
    have hmany := Set.infinite_range_of_injective
      (spelledToken_injective hmac inst.cfg.secret header payload)
    obtain ⟨_, ⟨k, rfl⟩, hfresh⟩ := hmany.exists_notMem_finite last.blacklist.finite_toSet
    rw [Set.mem_ofPred_eq] at hfresh
    have hsame := (signedInput?_spelled hinput hmac inst.cfg.secret k).trans hinput.symm
    have haccepted : ∃ result, last.authenticate hmac
        (some (spelledToken hmac inst.cfg.secret header payload k)) noResult now =
          some (0, result) := by
      rw [authenticate, if_neg hfresh, hcfg, verifyJwt_spelled hinput, hcheck]
      exact ⟨_, rfl⟩
    obtain ⟨result, hresult⟩ := haccepted
    exact (h _ hsame).1 noResult now result hresult
  · intro hclaims other hsame
    have hverify : ∀ now userId, verifyJwt hmac last.cfg other now ≠ some (.ok userId) := by
      intro now userId hok
      obtain ⟨header, payload, hinput, hcheck⟩ := checkClaims_of_verifyJwt hok
      rw [hcfg] at hcheck
      exact hclaims header payload (hsame ▸ hinput) (exists_checkClaims_iff.mp ⟨now, userId, hcheck⟩)
    constructor
    · intro out now result haccepted
      obtain ⟨userId, hok⟩ := verifyJwt_of_authenticate haccepted
      exact hverify now userId hok
    · intro out now created stamped result hrefreshed
      obtain ⟨userId, hok⟩ := verifyJwt_of_refreshToken hrefreshed
      exact hverify now userId hok

def bobToken : List UInt8 := (createJwt toyHmac exampleConfig (bytesOf "bob") 1000).getD []

def revokedBob : AuthInstance := (AuthInstance.invalidate { cfg := exampleConfig } (some bobToken)).2

/-- The issuer is another one in the instance that the token is shown to. -/
def otherInstance : AuthInstance := { cfg := { exampleConfig with issuer := bytesOf "other" } }

/-- The token of another issuer is not accepted in any spelling, and the own one not as it is
spelled. -/
theorem revoked_token_refused_bob :
    (∀ other, signedInput? other = signedInput? bobToken →
      ∀ out now result, (otherInstance.invalidate (some bobToken)).2.authenticate toyHmac (some other)
        out now ≠ some (0, result)) ∧
    revokedBob.authenticate toyHmac (some bobToken) noResult 2000 =
      some (-1, ⟨0, some "token_revoked", some "token has been invalidated", none, none, 0, none,
        none⟩) := by
  have hother : run AuthInstance.step otherInstance [.invalidate (some bobToken)] =
      some (otherInstance.invalidate (some bobToken)).2 := rfl
  have hrun : run AuthInstance.step { cfg := exampleConfig } [.invalidate (some bobToken)] =
      some revokedBob := rfl
  have hforeign : (signedInput? bobToken).map (fun parts =>
      jsonGetString (b64urlDecode parts.2) (bytesOf "iss")) = some (bytesOf "shield") := by
    decide +kernel
  refine ⟨fun other hsame => (((revoked_token_refused toyHmac hother).1.mpr ?_) other hsame).1,
    (revoked_token_refused toyHmac hrun).2 noResult 2000⟩
  intro header payload hinput hacceptable
  rw [hinput, Option.map_some, Option.some.injEq] at hforeign
  have hissuer := hacceptable.issuer (by decide)
  exact absurd (hforeign.symm.trans hissuer) (by decide)

/-- The same token is refreshed, and with one more character at its end it is accepted. -/
theorem revoked_token_accepted :
    signedInput? (bobToken ++ [61]) = signedInput? bobToken ∧
      (revokedBob.authenticate toyHmac (some (bobToken ++ [61])) noResult 2000).map
        (fun answer => (answer.1, answer.2.userId)) = some (0, some (bytesOf "bob")) ∧
      (revokedBob.refreshToken toyHmac (some bobToken) noResult 2000 2000 2000).map
        (fun answer => (answer.1, answer.2.token)) =
          some (0, createJwt toyHmac exampleConfig (bytesOf "bob") 2000) := by
  decide +kernel

end ShieldRuntime.Proofs
