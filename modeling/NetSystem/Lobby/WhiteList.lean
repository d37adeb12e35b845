import NetSystem.Lobby.ZoneManager

namespace NetSystem

/-!
# Matching against the white list

An entry and an address are arrays of eight bytes of which a dotted quad fills
the first four, while `CheckIpInWhiteList` compares all eight.  An entry that
agrees in the four octets is therefore found only when what was left over
behind them agrees as well, under the mask that was left over.

`SetWhiteName` takes the length of the mask string after it has put NUL over
the dots of the address.  Two strings that share memory end together and have
their first dots in common, so of such a mask only the first octet is stored.
-/

/-- A call of `SetWhiteName` with dotted quads: the memory that they are in, and
what its local pair holds before. -/
structure WhiteName where
  ip : DottedQuad
  mask : DottedQuad
  ipPair : IpPair
  buffer : List Char
  sIp : Nat
  sMask : Nat
  ipString : CStringAt buffer sIp ip.text
  maskString : CStringAt buffer sMask mask.text

namespace WhiteName

/-- The entry agrees with the address in the four octets under the mask. -/
def Admits (name : WhiteName) (address : DottedQuad) : Prop :=
  forall i, address.octet i &&& name.mask.octet i = name.ip.octet i &&& name.mask.octet i

/-- The strings share no memory. -/
def Apart (name : WhiteName) : Prop :=
  name.sIp + name.ip.text.length < name.sMask ∨ name.sMask + name.mask.text.length < name.sIp

/-- The bytes that no octet was written to agree under the mask found there. -/
def LeftoversAgree (name : WhiteName) (ip : IpNumArray) : Prop :=
  forall i : Fin 8, 4 ≤ i.val ->
    ip i &&& name.ipPair.mask i = name.ipPair.ip i &&& name.ipPair.mask i

instance (name : WhiteName) (address : DottedQuad) : Decidable (name.Admits address) :=
  inferInstanceAs (Decidable (forall _, _))

instance (name : WhiteName) : Decidable name.Apart := inferInstanceAs (Decidable (_ ∨ _))

instance (name : WhiteName) (ip : IpNumArray) : Decidable (name.LeftoversAgree ip) :=
  inferInstanceAs (Decidable (forall _ : Fin 8, _))

/-- The mask of an octet: behind the first one, a mask string that shares memory with the
address leaves what was there before. -/
def maskOf (name : WhiteName) (i : Fin 4) : UInt8 :=
  if name.Apart ∨ i.val = 0 then name.mask.octet i else name.ipPair.mask (i.castLE (by decide))

/-- The entry agrees with the address under its mask, in the octets and behind them. -/
def Agrees (name : WhiteName) (address : DottedQuad) (ip : IpNumArray) : Prop :=
  (forall i, address.octet i &&& name.maskOf i = name.ip.octet i &&& name.maskOf i) ∧
    name.LeftoversAgree ip

instance (name : WhiteName) (address : DottedQuad) (ip : IpNumArray) :
    Decidable (name.Agrees address ip) :=
  inferInstanceAs (Decidable (_ ∧ _))

theorem agrees_iff_of_apart {name : WhiteName} (apart : name.Apart) (address : DottedQuad)
    (ip : IpNumArray) :
    name.Agrees address ip ↔ name.Admits address ∧ name.LeftoversAgree ip := by
  simp only [Agrees, Admits, maskOf, apart, true_or, if_true]

/-- What `SetWhiteName` appends. -/
def entry (name : WhiteName) : IpPair :=
  ⟨name.ip.numbers 4 name.ipPair.ip,
    name.mask.numbers (if name.Apart then 4 else 1) name.ipPair.mask⟩

theorem mask_entry (name : WhiteName) (i : Fin 4) :
    name.entry.mask (i.castLE (by decide)) = name.maskOf i := by
  by_cases apart : name.Apart
  · simp [entry, maskOf, DottedQuad.numbers, apart]
  · by_cases first : i.val = 0
    · have zero : i = 0 := Fin.ext first
      simp [entry, maskOf, DottedQuad.numbers, apart, zero]
    · simp [entry, maskOf, DottedQuad.numbers, apart, first]

/-- Where no octet is written, the arrays hold what they held before. -/
theorem entry_leftover (name : WhiteName) {i : Fin 8} (behind : 4 ≤ i.val) :
    name.entry.ip i = name.ipPair.ip i ∧ name.entry.mask i = name.ipPair.mask i := by
  have outside : ¬ i.val < 4 := Nat.not_lt.mpr behind
  simp [entry, DottedQuad.numbers, outside]

theorem allMatched_entry_iff (name : WhiteName) (address : DottedQuad) (ip : IpNumArray) :
    SimpleZoneManager.allMatched (address.numbers 4 ip) name.entry = true ↔
      name.Agrees address ip := by
  simp only [SimpleZoneManager.allMatched, List.all_eq_true, List.mem_finRange, true_imp_iff,
    beq_iff_eq]
  constructor
  · intro matched
    constructor
    · intro i
      have octet := matched (i.castLE (by decide))
      rw [name.mask_entry] at octet
      simpa [entry, DottedQuad.numbers] using octet
    · intro i behind
      have byte := matched i
      rw [(name.entry_leftover behind).1, (name.entry_leftover behind).2] at byte
      simpa [DottedQuad.numbers, Nat.not_lt.mpr behind] using byte
  · rintro ⟨octets, leftovers⟩ i
    by_cases inside : i.val < 4
    · have octet := octets ⟨i.val, inside⟩
      rw [← name.mask_entry] at octet
      simpa [entry, DottedQuad.numbers, inside] using octet
    · have behind := Nat.le_of_not_lt inside
      have byte := leftovers i behind
      rw [(name.entry_leftover behind).1, (name.entry_leftover behind).2]
      simpa [DottedQuad.numbers, inside] using byte

/-- The second split stores the four octets of a mask that is somewhere else, and the first
one of a mask that shares memory with the address. -/
theorem splitIp_mask (name : WhiteName) {result : IpSplitting} {places : Memory Nat}
    (splits : SplitsAs name.buffer name.sIp name.ip.text (fun _ => 0) 8 '.'
      ⟨result.nAvCount, result.buffer, places⟩) :
    Exists fun second =>
      splitIp result.buffer name.sMask (Int32.ofNat (strlen result.buffer name.sMask))
          name.ipPair.mask = some second ∧
        second.av = name.entry.mask := by
  by_cases apart : name.Apart
  · rcases name.mask.splitIp_text (splits.string_apart name.maskString apart) name.ipPair.mask with
      ⟨second, ran, numbers, _⟩
    refine ⟨second, ran, ?_⟩
    rw [numbers, entry, if_pos apart]
  · have dots := name.ip.first_dot_eq name.ipString name.maskString
      (Nat.le_of_not_lt fun behind => apart (.inl behind))
      (Nat.le_of_not_lt fun before_ => apart (.inr before_))
    have first : (((pieces '.' name.ip.text).take 8)[0]?) = some (name.ip.segment 0).digits := by
      rw [name.ip.pieces_text]
      rfl
    have count : result.nAvCount = (name.ip.segments.take 8).length := by
      rw [← name.ip.pieces_text]
      exact splits.count
    have start := splits.starts 0 (count ▸ Nat.zero_lt_succ _)
    have nul := (splits.strings 0 _ first).terminated
    rw [start] at nul
    have free : '.' ∉ (name.mask.segment 0).digits :=
      fun member => (name.mask.segment 0).dotless _ member rfl
    have segment := splits.string_cut name.maskString free (dots ▸ nul)
    rcases name.mask.splitIp_first segment name.ipPair.mask with ⟨second, ran, numbers⟩
    refine ⟨second, ran, ?_⟩
    rw [numbers, entry, if_neg apart]

end WhiteName

namespace SimpleZoneManager

/-- The calls of `SetWhiteName`, one after the other. -/
def setWhiteNames : List WhiteName -> SimpleZoneManager -> Option SimpleZoneManager
  | [], manager => some manager
  | name :: names, manager => do
      let added <- manager.setWhiteName name.buffer name.sIp name.sMask name.ipPair
      setWhiteNames names added.2

theorem setWhiteName_eq (name : WhiteName) (manager : SimpleZoneManager) :
    Exists fun after =>
      manager.setWhiteName name.buffer name.sIp name.sMask name.ipPair =
        some (after, { manager with vWhiteList := manager.vWhiteList ++ [name.entry] }) := by
  rcases name.ip.splitIp_text name.ipString name.ipPair.ip with
    ⟨first, ran, numbers, places, splits⟩
  rcases name.splitIp_mask splits with ⟨second, masked, mask⟩
  refine ⟨second.buffer, ?_⟩
  simp only [setWhiteName, ran, masked, numbers, mask, Option.bind_eq_bind, Option.bind_some,
    Option.pure_def]
  rfl

theorem vWhiteList_setWhiteNames (names : List WhiteName) (manager : SimpleZoneManager) :
    Exists fun last => setWhiteNames names manager = some last ∧
      last.vWhiteList = manager.vWhiteList ++ names.map WhiteName.entry := by
  induction names generalizing manager with
  | nil => exact ⟨manager, rfl, (List.append_nil _).symm⟩
  | cons name names inductionHypothesis =>
      rcases setWhiteName_eq name manager with ⟨after, added⟩
      rcases inductionHypothesis
        { manager with vWhiteList := manager.vWhiteList ++ [name.entry] } with ⟨last, ran, entries⟩
      refine ⟨last, ?_, ?_⟩
      · simp only [setWhiteNames, added, Option.bind_eq_bind, Option.bind_some, ran]
      · rw [entries, List.append_assoc]
        rfl

/-! ## The copy of an address -/

theorem string_charArray {size : Nat} {text : List Char} (unbroken : '\x00' ∉ text)
    (short : text.length < size) : CStringAt (charArray size text) 0 text := by
  rcases Nat.exists_eq_add_of_lt short with ⟨more, rfl⟩
  rw [charArray, Nat.add_assoc, Nat.add_sub_cancel_left, List.replicate_succ]
  exact .of_append unbroken _

/-- Every text is copied to a string that can be split. -/
theorem splitIp_copy (sIp : List Char) (ip : IpNumArray) :
    (splitIp (charArray 32 (snprintf 32 sIp)) 0
      (Int32.ofNat (strlen (charArray 32 (snprintf 32 sIp)) 0)) ip).isSome = true := by
  have short : (snprintf 32 sIp).length ≤ 31 := List.length_take_le ..
  have size : (charArray 32 (snprintf 32 sIp)).length = 32 := by
    rw [charArray, List.length_append, List.length_replicate]
    omega
  have nul : '\x00' ∈ (charArray 32 (snprintf 32 sIp)).drop 0 := by
    rw [List.drop_zero, charArray]
    apply List.mem_append_right
    exact List.mem_replicate.mpr ⟨by omega, rfl⟩
  rcases CStringAt.of_mem nul with ⟨text, string⟩
  have inside := (List.getElem?_eq_some_iff.mp string.terminated).1
  rw [size] at inside
  rcases splitIp_spec string (string.toInt_strlen (by omega)) ip with ⟨result, ran, _⟩
  rw [ran]
  rfl

/-- A dotted quad fits into the copy. -/
theorem string_copy (address : DottedQuad) :
    CStringAt (charArray 32 (snprintf 32 address.text)) 0 address.text := by
  have short := address.length_text
  have whole : snprintf 32 address.text = address.text := List.take_of_length_le (by omega)
  rw [whole]
  exact string_charArray address.unbroken_text (by omega)

/-! ## The answer -/

theorem checkIpInWhiteList_eq_true_iff (names : List WhiteName) (address : DottedQuad)
    (ip : IpNumArray) :
    Exists fun manager => setWhiteNames names initial = some manager ∧
      (manager.checkIpInWhiteList address.text ip = true ↔
        names = [] ∨ Exists fun name => name ∈ names ∧ name.Agrees address ip) := by
  rcases vWhiteList_setWhiteNames names initial with ⟨manager, done, entries⟩
  refine ⟨manager, done, ?_⟩
  rcases address.splitIp_text (string_copy address) ip with ⟨result, ran, numbers, _⟩
  unfold checkIpInWhiteList
  rw [entries]
  split
  case isTrue empty =>
    have none_added : names = [] := by simpa [initial] using empty
    simp [none_added]
  case isFalse filled =>
    have some_added : names ≠ [] := by simpa [initial] using filled
    simp only [initial, List.nil_append, ran, numbers, List.any_map, List.any_eq_true,
      Function.comp_apply, WhiteName.allMatched_entry_iff, some_added, false_or]

/-- The list is filled, and an address is accepted when the list is empty or an entry agrees
with it in the four octets. -/
def MatchesOctets (names : List WhiteName) (address : DottedQuad) (ip : IpNumArray) : Prop :=
  Exists fun manager => setWhiteNames names initial = some manager ∧
    (manager.checkIpInWhiteList address.text ip = true ↔
      names = [] ∨ Exists fun name => name ∈ names ∧ name.Admits address)

theorem matchesOctets_iff (names : List WhiteName) (address : DottedQuad) (ip : IpNumArray) :
    MatchesOctets names address ip ↔
      ((names = [] ∨ Exists fun name => name ∈ names ∧ name.Agrees address ip) ↔
        names = [] ∨ Exists fun name => name ∈ names ∧ name.Admits address) := by
  rcases checkIpInWhiteList_eq_true_iff names address ip with ⟨manager, done, answer⟩
  constructor
  · rintro ⟨again, same, octets⟩
    rw [done] at same
    rw [← answer, Option.some.inj same]
    exact octets
  · intro octets
    exact ⟨manager, done, answer.trans octets⟩

/-- The answer is that of the four octets exactly when the list is empty, or an entry admits
the address and an entry agrees with it in what is compared, or no entry does either. -/
theorem checkIpInWhiteList_iff_octets_iff (names : List WhiteName) (address : DottedQuad)
    (ip : IpNumArray) :
    MatchesOctets names address ip ↔
      names = [] ∨
        ((Exists fun name => name ∈ names ∧ name.Admits address) ∧
          Exists fun name => name ∈ names ∧ name.Agrees address ip) ∨
        forall name, name ∈ names -> ¬ name.Admits address ∧ ¬ name.Agrees address ip := by
  have neither : (forall name, name ∈ names -> ¬ name.Admits address ∧ ¬ name.Agrees address ip) ↔
      (¬ Exists fun name => name ∈ names ∧ name.Admits address) ∧
        ¬ Exists fun name => name ∈ names ∧ name.Agrees address ip := by
    constructor
    · intro refused
      constructor
      · rintro ⟨name, member, admits⟩
        exact (refused name member).1 admits
      · rintro ⟨name, member, agrees⟩
        exact (refused name member).2 agrees
    · rintro ⟨none_admits, none_agrees⟩ name member
      exact ⟨fun admits => none_admits ⟨name, member, admits⟩,
        fun agrees => none_agrees ⟨name, member, agrees⟩⟩
  rw [matchesOctets_iff, neither]
  generalize (Exists fun name => name ∈ names ∧ name.Admits address) = admitted
  generalize (Exists fun name => name ∈ names ∧ name.Agrees address ip) = found
  tauto

/-- 127.0.0.1 -/
def loopback : DottedQuad where
  segment := fun i =>
    if i.val = 0 then ⟨['1', '2', '7'], by decide, by decide, List.all_eq_true.mp rfl, by decide⟩
    else if i.val = 3 then ⟨['1'], by decide, by decide, List.all_eq_true.mp rfl, by decide⟩
    else ⟨['0'], by decide, by decide, List.all_eq_true.mp rfl, by decide⟩

/-- 127.0.0.2 -/
def neighbour : DottedQuad where
  segment := fun i =>
    if i.val = 3 then ⟨['2'], by decide, by decide, List.all_eq_true.mp rfl, by decide⟩
    else loopback.segment i

/-- 255.255.255.255 -/
def everyBit : DottedQuad where
  segment := fun _ => ⟨['2', '5', '5'], by decide, by decide, List.all_eq_true.mp rfl, by decide⟩

/-- Two arrays with the address and its mask, and a mask that was left over. -/
def loopbackName : WhiteName where
  ip := loopback
  mask := everyBit
  ipPair := ⟨fun _ => 0, fun _ => 255⟩
  buffer := loopback.text ++ '\x00' :: (everyBit.text ++ ['\x00'])
  sIp := 0
  sMask := 10
  ipString := ⟨by decide, by decide, by decide⟩
  maskString := ⟨by decide, by decide, by decide⟩

/-- One array that is passed twice. -/
def sharedName : WhiteName where
  ip := loopback
  mask := loopback
  ipPair := ⟨fun _ => 0, fun _ => 0⟩
  buffer := loopback.text ++ ['\x00']
  sIp := 0
  sMask := 0
  ipString := ⟨by decide, by decide, by decide⟩
  maskString := ⟨by decide, by decide, by decide⟩

/-- 127.0.0.1 under 255.255.255.255 is not found where the byte behind the octets differs
under a mask that was left over.  Under 127.0.0.1 itself, passed as the same array,
127.0.0.2 is found where no mask was left over. -/
theorem loopback_not_in_white_list :
    ¬ MatchesOctets [loopbackName] loopback (fun _ => 1) ∧
      ¬ MatchesOctets [sharedName] neighbour (fun _ => 0) := by
  simp only [matchesOctets_iff, List.cons_ne_nil, false_or, List.mem_singleton, exists_eq_left]
  decide

end SimpleZoneManager

end NetSystem
