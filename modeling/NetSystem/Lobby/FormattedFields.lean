import NetSystem.Base.SnprintfNumbers
import NetSystem.Foundation.CString
import NetSystem.Lobby.ZoneUpdates

namespace NetSystem

universe u

/-!
# The fields that a zone is registered with

`CSimpleZoneManager::Register` formats the name, the address and the domain of a zone into
arrays of a fixed size.
-/

variable {φ : Type u} {model : DataModel} {float : FloatText φ}

/-- A buffer that the formatter has filled holds what fits of the text. -/
theorem Formatted.cString {size : Nat} {text buffer : List Char} {overflow : Bool} {result : Int}
    (formatted : Formatted size text overflow buffer result) (unbroken : '\x00' ∉ text) :
    CStringAt buffer 0 (snprintf size text) := by
  have shown := formatted.shown
  rw [← List.take_append_drop (min text.length (size - 1) + 1) buffer, shown, List.append_assoc]
  exact .of_append (fun member => unbroken (List.mem_of_mem_take member)) _

theorem means_string (flags : PrintFlags) (text : List Char) :
    Means model float flags "%s".toList [VarArg.string (some text)] text false := by
  have means : Means model float flags ['%', 's'] [VarArg.string (some text)] (text ++ []) false :=
    .fast rfl rfl rfl (.done flags [])
  rw [List.append_nil] at means
  exact means

/-- A number behind a text without a percent sign. -/
theorem Means.literals {flags : PrintFlags} {format : List Char} {args : List (VarArg φ)}
    {text : List Char} {overflow : Bool} (literals : List Char) (plain : '%' ∉ literals)
    (rest : Means model float flags format args text overflow) :
    Means model float flags (literals ++ format) args (literals ++ text) overflow := by
  induction literals with
  | nil => exact rest
  | cons ch literals inductionHypothesis =>
      rw [List.mem_cons, not_or] at plain
      exact .literal (Ne.symm plain.1) (inductionHypothesis plain.2)

theorem toList_toString (value : Int) : (toString value).toList = decimalText value := by
  rw [Int.toString_eq_repr, Int.repr_eq_if, decimalText]
  by_cases negative : value < 0
  · have digits : (-value).toNat = value.natAbs := by omega
    rw [if_pos negative, if_neg (Int.not_le.mpr negative), String.toList_append, Nat.toList_repr,
      digits]
    rfl
  · have digits : value.toNat = value.natAbs := by omega
    rw [if_neg negative, if_pos (Int.not_lt.mp negative), Nat.toList_repr, digits]
    rfl

/-- A zone number that has a negation. -/
structure ZoneNumber (nZoneId : Int) : Prop where
  above : -2 ^ 31 < nZoneId
  below : nZoneId < 2 ^ 31

theorem fastText_number {nZoneId : Int} (number : ZoneNumber nZoneId) :
    fastText model ['d'] [(VarArg.integer nZoneId : VarArg φ)] =
      some (decimalText nZoneId, [], []) := by
  have inside : (IntegerType.signed 32).low ≤ nZoneId ∧ nZoneId < (IntegerType.signed 32).high :=
    ⟨Int.le_of_lt number.above, number.below⟩
  have read : vaInteger (.signed 32) [(VarArg.integer nZoneId : VarArg φ)] =
      some (nZoneId, []) := by
    rw [vaInteger, if_pos inside]
  have negatable : ¬ (nZoneId < 0 ∧ (IntegerType.signed 32).high ≤ -nZoneId) := by
    have least : (IntegerType.signed 32).high = 2 ^ 31 := rfl
    have above := number.above
    omega
  exact fastText_integer rfl read negatable (.inl rfl)

theorem means_server {nZoneId : Int} (number : ZoneNumber nZoneId) :
    Means model float .none "Server%d".toList [VarArg.integer nZoneId]
      ("Server".toList ++ (toString nZoneId).toList) false := by
  have means : Means model float .none ['%', 'd'] [VarArg.integer nZoneId]
      (decimalText nZoneId ++ []) false :=
    .fast rfl rfl (fastText_number number) (.done .none [])
  rw [List.append_nil, ← toList_toString] at means
  exact means.literals "Server".toList (by decide)

theorem no_nul_number (value : Int) : '\x00' ∉ (toString value).toList := by
  rw [toList_toString, decimalText, List.mem_append, not_or]
  constructor
  · split <;> decide
  · intro member
    exact absurd (Nat.isDigit_of_mem_toDigits (by decide) (by decide) member) (by decide)

/-- The formatter fills an array, whatever it holds, with a string. -/
def Fills (model : DataModel) (float : FloatText φ) (size : Nat) (format : List Char)
    (args : List (VarArg φ)) (text : List Char) : Prop :=
  forall out, out.length = size -> Exists fun buffer => Exists fun result => Exists fun stored =>
    oVsnprintf model float out size format args = some (buffer, result, stored) ∧
    buffer.length = size ∧ CStringAt buffer 0 text

theorem fills_of_means {size : Nat} (positive : 0 < size) {format : List Char}
    {args : List (VarArg φ)} {text : List Char} {overflow : Bool}
    (means : Means model float .none format args text overflow) (unbroken : '\x00' ∉ text) :
    Fills model float size format args (snprintf size text) := by
  rintro out rfl
  rcases oVsnprintf_of_means positive means with ⟨buffer, result, stored, done, formatted⟩
  exact ⟨buffer, result, stored, done, formatted.length, formatted.cString unbroken⟩

theorem fills_name {nZoneId : Int} (number : ZoneNumber nZoneId) :
    Fills model float 32 "Server%d".toList [VarArg.integer nZoneId]
      (snprintf 32 ("Server".toList ++ (toString nZoneId).toList)) := by
  apply fills_of_means (by decide) (means_server number)
  rw [List.mem_append, not_or]
  exact ⟨by decide, no_nul_number nZoneId⟩

namespace SimpleZoneManager

/-- The fields of a registered zone are what the formatter leaves in its arrays. -/
theorem registeredInfo_formatted (model : DataModel) (float : FloatText φ) {nZoneId : Int}
    (number : ZoneNumber nZoneId) (uConnId : UInt64) {sDomain sIp : List Char}
    (domain : '\x00' ∉ sDomain) (ip : '\x00' ∉ sIp) (nPort : UInt16) :
    let info := registeredInfo nZoneId uConnId sDomain sIp nPort
    Fills model float 32 "Server%d".toList [.integer nZoneId] info.chName ∧
    Fills model float 32 "%s".toList [.string (some sIp)] info.chIp ∧
    Fills model float 64 "%s".toList [.string (some sDomain)] info.chDomain :=
  ⟨fills_name number, fills_of_means (by decide) (means_string .none sIp) ip,
    fills_of_means (by decide) (means_string .none sDomain) domain⟩

theorem registeredInfo_formatted_lobby :
    let info := registeredInfo 7 1 "lobby".toList "10.0.0.1".toList 80
    let float : FloatText Unit := fun _ _ _ _ => none
    Fills .lp64 float 32 "Server%d".toList [.integer 7] info.chName ∧
    Fills .lp64 float 32 "%s".toList [.string (some "10.0.0.1".toList)] info.chIp ∧
    Fills .lp64 float 64 "%s".toList [.string (some "lobby".toList)] info.chDomain :=
  registeredInfo_formatted .lp64 (fun (_ : Unit) _ _ _ => none) ⟨by decide, by decide⟩ 1
    (by decide) (by decide) 80

/-! ## The names of zones -/

/-- A call that registers a zone under a number that has a negation. -/
def NumberedCall : ZoneCall -> Prop
  | .register nZoneId _ _ _ _ _ => ZoneNumber nZoneId
  | _ => True

/-- Every zone has a number and the name with it. -/
def Named (manager : SimpleZoneManager) : Prop :=
  forall zone info, manager.getZone zone = some info ->
    ZoneNumber zone ∧
      info.chName = snprintf 32 ("Server".toList ++ (toString zone).toList)

theorem Named.perform {manager : SimpleZoneManager} (named : manager.Named) {call : ZoneCall}
    (numbered : NumberedCall call) : (manager.perform call).Named := by
  intro zone info found
  cases call with
  | register nZoneId uConnId sDomain sIp nPort ip =>
      change (manager.register nZoneId uConnId sDomain sIp nPort ip).getZone zone = _ at found
      cases white : manager.checkIpInWhiteList sIp ip with
      | false =>
          rw [register_of_refused white] at found
          exact named zone info found
      | true =>
          rcases (getZone_register_iff white zone info).mp found with ⟨rfl, rfl⟩ | ⟨_, before⟩
          · exact ⟨numbered, rfl⟩
          · exact named zone info before
  | unregister nZoneId => exact named zone info ((getZone_unregister_iff nZoneId zone info).mp found).2
  | unregisterByConnId uConnId =>
      exact named zone info ((getZone_unregisterByConnId_iff uConnId zone info).mp found).1
  | setWhiteName buffer sIp sMask ipPair =>
      exact named zone info (getZone_setWhiteName buffer sIp sMask ipPair zone ▸ found)
  | registerChannel pChannelInfo =>
      exact named zone info (getZone_registerChannel pChannelInfo zone ▸ found)
  | addChannelPeer nChannelId nPeerId =>
      exact named zone info (getZone_addChannelPeer nChannelId nPeerId zone ▸ found)
  | removeChannelPeer nChannelId nPeerId =>
      exact named zone info (getZone_removeChannelPeer nChannelId nPeerId zone ▸ found)

theorem Named.run {manager : SimpleZoneManager} (named : manager.Named) {calls : List ZoneCall}
    (numbered : forall call, call ∈ calls -> NumberedCall call) :
    (calls.foldl (fun manager call => manager.perform call) manager).Named := by
  induction calls generalizing manager with
  | nil => exact named
  | cons call calls inductionHypothesis =>
      exact inductionHypothesis (named.perform (numbered call List.mem_cons_self))
        fun later member => numbered later (List.mem_cons_of_mem _ member)

end SimpleZoneManager
end NetSystem
