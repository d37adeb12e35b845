import Mathlib.Data.List.Basic
import Mathlib.Data.List.Nodup
import NetSystem.Foundation.Transition

namespace NetSystem

/-!
# The transfers of a multi handle

`CCURLHttp` and `CCURLSSL`, as owners of easy handles.  An easy handle is named
by the order in which it was made.  The library is what it is documented to do
with ownership: a handle is made, added to the multi handle, removed from it
and cleaned up, a finished transfer is reported once, and a handle that has
been cleaned up may not be passed to it again.

The options of a request decide nothing here.  Which transfers are found
finished, and with which results, is part of the event; every message is
`CURLMSG_DONE`, the only one that the library defines.
-/

/-- What has become of an easy handle. -/
inductive EasyState where
  | unmade
  | removed
  | added
  | reported
  | cleaned
deriving DecidableEq

/-- The calls that ownership depends on. -/
inductive CurlCall where
  | add (easy : Nat)
  | remove (easy : Nat)
  | cleanup (easy : Nat)
deriving DecidableEq

namespace CurlCall

def easy : CurlCall -> Nat
  | .add easy => easy
  | .remove easy => easy
  | .cleanup easy => easy

end CurlCall

/-- The multi handle with its easy handles, the list of the class, and what has
been called so far. -/
structure CurlMulti where
  made : Nat
  easy : Nat -> EasyState
  vRetryList : List Nat
  calls : List CurlCall
  misused : Bool

/-- A transfer that is done, with its result. -/
abbrev CurlMsg := Nat × Nat

/-! ## Result codes -/

def curleOk : Nat := 0
def curleCouldntConnect : Nat := 7
def curleOperationTimedout : Nat := 28
def curleSendError : Nat := 55
def curleRecvError : Nat := 56
def curleSslCacert : Nat := 60

/-- What a branch of the inner `switch` does with the handle. -/
inductive OnResult where
  | removeRequest
  | checkRetry
  | doNothing
  | printFailed
deriving DecidableEq

/-- The two classes. -/
inductive CurlClass where
  | curlHttp
  | curlSsl
deriving DecidableEq

namespace CurlClass

/-- The `switch` of `CCURLHttp::MultiExec`. -/
def httpOnResult (result : Nat) : OnResult :=
  if result = curleOk then .removeRequest
  else if result = curleCouldntConnect then .doNothing
  else if result = curleSendError ∨ result = curleRecvError ∨
      result = curleOperationTimedout then .checkRetry
  else .printFailed

/-- The `switch` of `CCURLSSL::MultiExec`. -/
def sslOnResult (result : Nat) : OnResult :=
  if result = curleOk then .removeRequest
  else if result = curleCouldntConnect ∨ result = curleRecvError ∨
      result = curleOperationTimedout ∨ result = curleSslCacert then .checkRetry
  else .printFailed

def onResult : CurlClass -> Nat -> OnResult
  | .curlHttp => httpOnResult
  | .curlSsl => sslOnResult

end CurlClass

namespace CurlMulti

def initial : CurlMulti where
  made := 0
  easy := fun _ => .unmade
  vRetryList := []
  calls := []
  misused := false

/-! ## The library -/

/-- Pass a handle to the library. -/
def touch (easy : Nat) (multi : CurlMulti) : CurlMulti :=
  { multi with misused := multi.misused || decide (multi.easy easy = .cleaned) }

def setEasy (easy : Nat) (state : EasyState) (multi : CurlMulti) : CurlMulti :=
  { multi with easy := Function.update multi.easy easy state }

def called (call : CurlCall) (multi : CurlMulti) : CurlMulti :=
  { multi with calls := multi.calls ++ [call] }

/-- `curl_easy_init`. -/
def easyInit (multi : CurlMulti) : CurlMulti :=
  { multi.setEasy multi.made .removed with made := multi.made + 1 }

/-- `curl_multi_add_handle`.  A handle that is in the multi handle stays as it
is. -/
def addHandle (easy : Nat) (multi : CurlMulti) : CurlMulti :=
  let next := (multi.touch easy).called (.add easy)
  if multi.easy easy = .removed then next.setEasy easy .added else next

/-- `curl_multi_remove_handle`. -/
def removeHandle (easy : Nat) (multi : CurlMulti) : CurlMulti :=
  let next := (multi.touch easy).called (.remove easy)
  if multi.easy easy = .added ∨ multi.easy easy = .reported then next.setEasy easy .removed
  else next

/-- `curl_easy_cleanup`. -/
def cleanup (easy : Nat) (multi : CurlMulti) : CurlMulti :=
  ((multi.touch easy).called (.cleanup easy)).setEasy easy .cleaned

/-- `curl_multi_perform`, as far as the finished transfers go. -/
def perform (finished : List CurlMsg) (multi : CurlMulti) : CurlMulti :=
  { multi with
    easy := fun easy => if easy ∈ finished.map Prod.fst then .reported else multi.easy easy }

/-- The transfers that may be found finished: different handles that are in the
multi handle and have not been reported since they were added. -/
def Reports (multi : CurlMulti) (finished : List CurlMsg) : Prop :=
  (finished.map Prod.fst).Nodup ∧
    forall easy, easy ∈ finished.map Prod.fst -> multi.easy easy = .added

/-- `running_handle_count`. -/
def running (multi : CurlMulti) : Nat :=
  (List.range multi.made).countP fun easy => decide (multi.easy easy = .added)

/-! ## The classes -/

/-- `AddRequest`.  Without a handle nothing is added. -/
def addRequest (handle : Bool) (multi : CurlMulti) : Option Nat × CurlMulti :=
  if handle then (some multi.made, multi.easyInit.addHandle multi.made) else (none, multi)

/-- `RemoveRequest`. -/
def removeRequest (easy : Nat) (multi : CurlMulti) : CurlMulti :=
  (multi.removeHandle easy).cleanup easy

/-- Removed and kept in `_vRetryList`. -/
def keepForRetry (easy : Nat) (multi : CurlMulti) : CurlMulti :=
  let next := multi.removeHandle easy
  { next with vRetryList := next.vRetryList ++ [easy] }

/-- The body of the loop over the messages. -/
def onMessage (kind : CurlClass) (bRetry : Bool) (message : CurlMsg) (multi : CurlMulti) :
    CurlMulti :=
  -- `curl_easy_getinfo`
  let next := multi.touch message.1
  match kind.onResult message.2 with
  | .removeRequest => next.removeRequest message.1
  | .checkRetry => if bRetry then next.keepForRetry message.1 else next.removeRequest message.1
  | .doNothing => next
  | .printFailed => next

/-- `while ((message = curl_multi_info_read(_multi_handle, &pending)))`. -/
def readInfo (kind : CurlClass) (bRetry : Bool) : List CurlMsg -> CurlMulti -> CurlMulti
  | [], multi => multi
  | message :: finished, multi =>
      readInfo kind bRetry finished (multi.onMessage kind bRetry message)

/-- `for (auto& it : _vRetryList)`. -/
def addAgain : List Nat -> CurlMulti -> CurlMulti
  | [], multi => multi
  | easy :: rest, multi => addAgain rest (multi.addHandle easy)

/-- `MultiExec`, with what it returns. -/
def multiExec (kind : CurlClass) (bRetry : Bool) (finished : List CurlMsg) (multi : CurlMulti) :
    Nat × CurlMulti :=
  let performed := multi.perform finished
  let read := readInfo kind bRetry finished { performed with vRetryList := [] }
  let next := if bRetry then addAgain read.vRetryList read else read
  (performed.running + next.vRetryList.length, next)

end CurlMulti

/-- A call of one of the classes. -/
inductive CurlEvent where
  | addRequest (handle : Bool)
  | multiExec (bRetry : Bool) (finished : List CurlMsg)
deriving DecidableEq

/-- One call. -/
inductive CurlStep (kind : CurlClass) : CurlMulti -> CurlEvent -> CurlMulti -> Prop
  | addRequest (multi : CurlMulti) (handle : Bool) :
      CurlStep kind multi (.addRequest handle) (multi.addRequest handle).2
  | multiExec (multi : CurlMulti) (bRetry : Bool) (finished : List CurlMsg) :
      multi.Reports finished ->
      CurlStep kind multi (.multiExec bRetry finished) (multi.multiExec kind bRetry finished).2

namespace CurlMulti

/-! ## What is known of one handle -/

/-- The calls made with one handle. -/
def callsWith (multi : CurlMulti) (easy : Nat) : List CurlCall :=
  multi.calls.filter fun call => call.easy == easy

/-- The state of one handle with the calls made with it. -/
def handle (multi : CurlMulti) (easy : Nat) : EasyState × List CurlCall :=
  (multi.easy easy, multi.callsWith easy)

theorem touch_of_alive {multi : CurlMulti} {easy : Nat} (alive : multi.easy easy ≠ .cleaned) :
    multi.touch easy = multi := by
  simp [touch, alive]

@[simp] theorem handle_called (multi : CurlMulti) (call : CurlCall) (easy : Nat) :
    (multi.called call).handle easy =
      (multi.easy easy, multi.callsWith easy ++ if call.easy = easy then [call] else []) := by
  by_cases same : call.easy = easy
  · simp [handle, called, callsWith, List.filter_append, same]
  · simp [handle, called, callsWith, List.filter_append, same]

theorem handle_setEasy_self (multi : CurlMulti) (easy : Nat) (state : EasyState) :
    (multi.setEasy easy state).handle easy = (state, multi.callsWith easy) := by
  simp [handle, setEasy, callsWith]

theorem handle_setEasy_other {multi : CurlMulti} {easy other : Nat} (state : EasyState)
    (apart : other ≠ easy) : (multi.setEasy easy state).handle other = multi.handle other := by
  simp [handle, setEasy, callsWith, apart]

section Operations

variable {multi : CurlMulti} {easy other : Nat}

theorem addHandle_eq (removed : multi.easy easy = .removed) :
    multi.addHandle easy = (multi.called (.add easy)).setEasy easy .added := by
  simp [addHandle, touch_of_alive, removed]

theorem removeHandle_eq (held : multi.easy easy = .reported) :
    multi.removeHandle easy = (multi.called (.remove easy)).setEasy easy .removed := by
  simp [removeHandle, touch_of_alive, held]

theorem cleanup_eq (removed : multi.easy easy = .removed) :
    multi.cleanup easy = (multi.called (.cleanup easy)).setEasy easy .cleaned := by
  simp [cleanup, touch_of_alive, removed]

theorem handle_moved (multi : CurlMulti) (easy : Nat) (call : CurlCall) (state : EasyState)
    (named : call.easy = easy) :
    ((multi.called call).setEasy easy state).handle easy =
      (state, multi.callsWith easy ++ [call]) := by
  have after := handle_called multi call easy
  rw [handle_setEasy_self]
  simp only [handle, named, if_true, Prod.mk.injEq] at after
  rw [after.2]

theorem handle_moved_other (multi : CurlMulti) (easy : Nat) (call : CurlCall) (state : EasyState)
    (named : call.easy = easy) (apart : other ≠ easy) :
    ((multi.called call).setEasy easy state).handle other = multi.handle other := by
  rw [handle_setEasy_other state apart, handle_called, if_neg (by rw [named]; exact apart.symm)]
  simp [handle]

/-- A reported handle that `RemoveRequest` is called with. -/
theorem removeRequest_eq (held : multi.easy easy = .reported) :
    multi.removeRequest easy =
      ((((multi.called (.remove easy)).setEasy easy .removed).called (.cleanup easy)).setEasy easy
        .cleaned) := by
  unfold removeRequest
  rw [removeHandle_eq held]
  apply cleanup_eq
  simp [setEasy]

theorem handle_removeRequest (held : multi.easy easy = .reported) :
    (multi.removeRequest easy).handle easy =
      (.cleaned, multi.callsWith easy ++ [.remove easy, .cleanup easy]) := by
  rw [removeRequest_eq held, handle_moved _ easy (.cleanup easy) .cleaned rfl]
  have before := handle_moved multi easy (.remove easy) .removed rfl
  simp only [handle, Prod.mk.injEq] at before
  rw [before.2, List.append_assoc]
  rfl

theorem handle_removeRequest_other (held : multi.easy easy = .reported) (apart : other ≠ easy) :
    (multi.removeRequest easy).handle other = multi.handle other := by
  rw [removeRequest_eq held, handle_moved_other _ easy (.cleanup easy) .cleaned rfl apart,
    handle_moved_other multi easy (.remove easy) .removed rfl apart]

theorem handle_keepForRetry (held : multi.easy easy = .reported) :
    (multi.keepForRetry easy).handle easy =
      (.removed, multi.callsWith easy ++ [.remove easy]) := by
  unfold keepForRetry
  rw [removeHandle_eq held]
  exact handle_moved multi easy (.remove easy) .removed rfl

theorem handle_keepForRetry_other (held : multi.easy easy = .reported) (apart : other ≠ easy) :
    (multi.keepForRetry easy).handle other = multi.handle other := by
  unfold keepForRetry
  rw [removeHandle_eq held]
  exact handle_moved_other multi easy (.remove easy) .removed rfl apart

end Operations

/-! ## One message -/

/-- What the loop does with a handle whose transfer is done. -/
inductive Fate where
  | discarded
  | kept
  | dropped
deriving DecidableEq

def fate (kind : CurlClass) (bRetry : Bool) (result : Nat) : Fate :=
  match kind.onResult result with
  | .removeRequest => .discarded
  | .checkRetry => if bRetry then .kept else .discarded
  | .doNothing => .dropped
  | .printFailed => .dropped

/-- The handle at the end of the loop, from the calls made with it before. -/
def Fate.outcome (easy : Nat) (calls : List CurlCall) : Fate -> EasyState × List CurlCall
  | .discarded => (.cleaned, calls ++ [.remove easy, .cleanup easy])
  | .kept => (.removed, calls ++ [.remove easy])
  | .dropped => (.reported, calls)

section Messages

variable (kind : CurlClass) (bRetry : Bool) {message : CurlMsg} {multi : CurlMulti}

/-- The three things that a message leads to. -/
theorem onMessage_cases (held : multi.easy message.1 = .reported) :
    (fate kind bRetry message.2 = .discarded ∧
      multi.onMessage kind bRetry message = multi.removeRequest message.1) ∨
    (fate kind bRetry message.2 = .kept ∧
      multi.onMessage kind bRetry message = multi.keepForRetry message.1) ∨
    (fate kind bRetry message.2 = .dropped ∧ multi.onMessage kind bRetry message = multi) := by
  have alive : multi.easy message.1 ≠ .cleaned := by simp [held]
  unfold onMessage fate
  rw [touch_of_alive alive]
  cases kind.onResult message.2 with
  | removeRequest => exact Or.inl ⟨rfl, rfl⟩
  | checkRetry =>
      cases bRetry with
      | true => exact Or.inr (Or.inl ⟨rfl, rfl⟩)
      | false => exact Or.inl ⟨rfl, rfl⟩
  | doNothing => exact Or.inr (Or.inr ⟨rfl, rfl⟩)
  | printFailed => exact Or.inr (Or.inr ⟨rfl, rfl⟩)

theorem handle_onMessage (held : multi.easy message.1 = .reported) :
    (multi.onMessage kind bRetry message).handle message.1 =
      (fate kind bRetry message.2).outcome message.1 (multi.callsWith message.1) := by
  rcases onMessage_cases kind bRetry held with
    ⟨is, same⟩ | ⟨is, same⟩ | ⟨is, same⟩
  · rw [is, same, handle_removeRequest held]
    rfl
  · rw [is, same, handle_keepForRetry held]
    rfl
  · rw [is, same, handle, held]
    rfl

theorem handle_onMessage_other (held : multi.easy message.1 = .reported) {other : Nat}
    (apart : other ≠ message.1) :
    (multi.onMessage kind bRetry message).handle other = multi.handle other := by
  rcases onMessage_cases kind bRetry held with
    ⟨_, same⟩ | ⟨_, same⟩ | ⟨_, same⟩
  · rw [same, handle_removeRequest_other held apart]
  · rw [same, handle_keepForRetry_other held apart]
  · rw [same]

theorem misused_onMessage (held : multi.easy message.1 = .reported) :
    (multi.onMessage kind bRetry message).misused = multi.misused := by
  rcases onMessage_cases kind bRetry held with
    ⟨_, same⟩ | ⟨_, same⟩ | ⟨_, same⟩
  · rw [same, removeRequest_eq held]
    rfl
  · rw [same, keepForRetry, removeHandle_eq held]
    rfl
  · rw [same]

theorem vRetryList_onMessage (held : multi.easy message.1 = .reported) :
    (multi.onMessage kind bRetry message).vRetryList =
      multi.vRetryList ++ if fate kind bRetry message.2 = .kept then [message.1] else [] := by
  rcases onMessage_cases kind bRetry held with
    ⟨is, same⟩ | ⟨is, same⟩ | ⟨is, same⟩
  · rw [is, same, removeRequest_eq held]
    simp [setEasy, called]
  · rw [is, same, keepForRetry, removeHandle_eq held]
    simp [setEasy, called]
  · rw [is, same]
    simp

end Messages

/-! ## The loop over the messages -/

section Loop

variable (kind : CurlClass) (bRetry : Bool)

/-- The messages are about different handles, all of them reported. -/
structure Pending (multi : CurlMulti) (finished : List CurlMsg) : Prop where
  apart : (finished.map Prod.fst).Nodup
  reported : forall easy, easy ∈ finished.map Prod.fst -> multi.easy easy = .reported

theorem Pending.held {multi : CurlMulti} {message : CurlMsg} {finished : List CurlMsg}
    (pending : multi.Pending (message :: finished)) : multi.easy message.1 = .reported :=
  pending.reported message.1 (List.mem_cons_self ..)

theorem Pending.next {multi : CurlMulti} {message : CurlMsg} {finished : List CurlMsg}
    (pending : multi.Pending (message :: finished)) :
    (multi.onMessage kind bRetry message).Pending finished := by
  have apart := pending.apart
  simp only [List.map_cons, List.nodup_cons] at apart
  constructor
  · exact apart.2
  · intro easy member
    have other : easy ≠ message.1 := fun same => apart.1 (same ▸ member)
    have same := handle_onMessage_other kind bRetry pending.held other
    simp only [handle, Prod.mk.injEq] at same
    rw [same.1]
    exact pending.reported easy (List.mem_cons_of_mem _ member)

theorem handle_readInfo_other {finished : List CurlMsg} {multi : CurlMulti}
    (pending : multi.Pending finished) {other : Nat} (apart : other ∉ finished.map Prod.fst) :
    (readInfo kind bRetry finished multi).handle other = multi.handle other := by
  induction finished generalizing multi with
  | nil => rfl
  | cons message finished inductionHypothesis =>
      simp only [List.map_cons, List.mem_cons, not_or] at apart
      simp only [readInfo]
      rw [inductionHypothesis (pending.next kind bRetry) apart.2,
        handle_onMessage_other kind bRetry pending.held apart.1]

theorem handle_readInfo {finished : List CurlMsg} {multi : CurlMulti}
    (pending : multi.Pending finished) {easy result : Nat} (member : (easy, result) ∈ finished) :
    (readInfo kind bRetry finished multi).handle easy =
      (fate kind bRetry result).outcome easy (multi.callsWith easy) := by
  induction finished generalizing multi with
  | nil => cases member
  | cons message finished inductionHypothesis =>
      have apart := pending.apart
      simp only [List.map_cons, List.nodup_cons] at apart
      simp only [readInfo]
      rcases List.mem_cons.mp member with same | later
      · subst same
        rw [handle_readInfo_other kind bRetry (pending.next kind bRetry) apart.1]
        exact handle_onMessage kind bRetry pending.held
      · have other : easy ≠ message.1 :=
          fun same => apart.1 (same ▸ List.mem_map_of_mem later)
        have kept := handle_onMessage_other kind bRetry pending.held other
        simp only [handle, Prod.mk.injEq] at kept
        rw [inductionHypothesis (pending.next kind bRetry) later, kept.2]

theorem misused_readInfo {finished : List CurlMsg} {multi : CurlMulti}
    (pending : multi.Pending finished) :
    (readInfo kind bRetry finished multi).misused = multi.misused := by
  induction finished generalizing multi with
  | nil => rfl
  | cons message finished inductionHypothesis =>
      simp only [readInfo]
      rw [inductionHypothesis (pending.next kind bRetry),
        misused_onMessage kind bRetry pending.held]

/-- The handles that are to be added again. -/
def keptHandles (kind : CurlClass) (bRetry : Bool) (finished : List CurlMsg) : List Nat :=
  (finished.filter fun message => fate kind bRetry message.2 == .kept).map Prod.fst

theorem vRetryList_readInfo {finished : List CurlMsg} {multi : CurlMulti}
    (pending : multi.Pending finished) :
    (readInfo kind bRetry finished multi).vRetryList =
      multi.vRetryList ++ keptHandles kind bRetry finished := by
  induction finished generalizing multi with
  | nil => simp [readInfo, keptHandles]
  | cons message finished inductionHypothesis =>
      simp only [readInfo]
      rw [inductionHypothesis (pending.next kind bRetry),
        vRetryList_onMessage kind bRetry pending.held]
      by_cases kept : fate kind bRetry message.2 = .kept
      · simp [keptHandles, kept]
      · simp [keptHandles, kept]

end Loop

/-! ## Adding again -/

section Again

theorem handle_addHandle {multi : CurlMulti} {easy : Nat} (removed : multi.easy easy = .removed) :
    (multi.addHandle easy).handle easy = (.added, multi.callsWith easy ++ [.add easy]) := by
  rw [addHandle_eq removed]
  exact handle_moved multi easy (.add easy) .added rfl

theorem handle_addHandle_other {multi : CurlMulti} {easy other : Nat}
    (removed : multi.easy easy = .removed) (apart : other ≠ easy) :
    (multi.addHandle easy).handle other = multi.handle other := by
  rw [addHandle_eq removed]
  exact handle_moved_other multi easy (.add easy) .added rfl apart

theorem removed_addHandle {multi : CurlMulti} {easy : Nat} {rest : List Nat}
    (apart : (easy :: rest).Nodup)
    (removed : forall other, other ∈ easy :: rest -> multi.easy other = .removed) :
    forall other, other ∈ rest -> (multi.addHandle easy).easy other = .removed := by
  intro other member
  have different : other ≠ easy := fun same => (List.nodup_cons.mp apart).1 (same ▸ member)
  have same := handle_addHandle_other (removed easy (List.mem_cons_self ..)) different
  simp only [handle, Prod.mk.injEq] at same
  rw [same.1]
  exact removed other (List.mem_cons_of_mem _ member)

theorem handle_addAgain_other {list : List Nat} {multi : CurlMulti} (apart : list.Nodup)
    (removed : forall easy, easy ∈ list -> multi.easy easy = .removed) {other : Nat}
    (absent : other ∉ list) : (addAgain list multi).handle other = multi.handle other := by
  induction list generalizing multi with
  | nil => rfl
  | cons easy rest inductionHypothesis =>
      simp only [List.mem_cons, not_or] at absent
      simp only [addAgain]
      rw [inductionHypothesis (List.nodup_cons.mp apart).2 (removed_addHandle apart removed)
        absent.2, handle_addHandle_other (removed easy (List.mem_cons_self ..)) absent.1]

theorem handle_addAgain {list : List Nat} {multi : CurlMulti} (apart : list.Nodup)
    (removed : forall easy, easy ∈ list -> multi.easy easy = .removed) {easy : Nat}
    (member : easy ∈ list) :
    (addAgain list multi).handle easy = (.added, multi.callsWith easy ++ [.add easy]) := by
  induction list generalizing multi with
  | nil => cases member
  | cons first rest inductionHypothesis =>
      have parts := List.nodup_cons.mp apart
      have head := removed first (List.mem_cons_self ..)
      have later := removed_addHandle apart removed
      simp only [addAgain]
      rcases List.mem_cons.mp member with same | inside
      · subst same
        rw [handle_addAgain_other parts.2 later parts.1]
        exact handle_addHandle head
      · have different : easy ≠ first := fun same => parts.1 (same ▸ inside)
        have kept := handle_addHandle_other head different
        simp only [handle, Prod.mk.injEq] at kept
        rw [inductionHypothesis parts.2 later inside, kept.2]

theorem misused_addAgain {list : List Nat} {multi : CurlMulti} (apart : list.Nodup)
    (removed : forall easy, easy ∈ list -> multi.easy easy = .removed) :
    (addAgain list multi).misused = multi.misused := by
  induction list generalizing multi with
  | nil => rfl
  | cons easy rest inductionHypothesis =>
      simp only [addAgain]
      rw [inductionHypothesis (List.nodup_cons.mp apart).2 (removed_addHandle apart removed),
        addHandle_eq (removed easy (List.mem_cons_self ..))]
      rfl

end Again

/-! ## `MultiExec` -/

section Exec

variable (kind : CurlClass) (bRetry : Bool) {finished : List CurlMsg} {multi : CurlMulti}

/-- The handle after `MultiExec`, from the calls made with it before. -/
def Fate.final (easy : Nat) (calls : List CurlCall) : Fate -> EasyState × List CurlCall
  | .discarded => (.cleaned, calls ++ [.remove easy, .cleanup easy])
  | .kept => (.added, calls ++ [.remove easy, .add easy])
  | .dropped => (.reported, calls)

theorem fate_kept_retries {result : Nat} (kept : fate kind bRetry result = .kept) :
    bRetry = true := by
  unfold fate at kept
  cases bRetry with
  | true => rfl
  | false =>
      cases is : kind.onResult result <;> simp [is] at kept

theorem mem_keptHandles {easy : Nat} :
    easy ∈ keptHandles kind bRetry finished ↔
      Exists fun result => (easy, result) ∈ finished ∧ fate kind bRetry result = .kept := by
  simp [keptHandles]

theorem result_unique (apart : (finished.map Prod.fst).Nodup) {easy result result' : Nat}
    (member : (easy, result) ∈ finished) (member' : (easy, result') ∈ finished) :
    result = result' := by
  have same := List.inj_on_of_nodup_map apart member member' rfl
  exact (Prod.mk.inj same).2

theorem pending_perform (reports : multi.Reports finished) :
    ({ multi.perform finished with vRetryList := [] } : CurlMulti).Pending finished where
  apart := reports.1
  reported := by
    intro easy member
    simp [perform, member]

theorem keptHandles_nodup (reports : multi.Reports finished) :
    (keptHandles kind bRetry finished).Nodup :=
  reports.1.sublist (List.filter_sublist.map Prod.fst)

theorem removed_readInfo (reports : multi.Reports finished) :
    forall easy, easy ∈ keptHandles kind bRetry finished ->
      (readInfo kind bRetry finished { multi.perform finished with vRetryList := [] }).easy easy =
        .removed := by
  intro easy member
  rcases (mem_keptHandles kind bRetry).mp member with ⟨result, inside, kept⟩
  have after := handle_readInfo kind bRetry (pending_perform reports) inside
  rw [kept] at after
  simp only [handle, Fate.outcome, Prod.mk.injEq] at after
  exact after.1

theorem multiExec_eq (reports : multi.Reports finished) :
    (multi.multiExec kind bRetry finished).2 =
      addAgain (keptHandles kind bRetry finished)
        (readInfo kind bRetry finished { multi.perform finished with vRetryList := [] }) := by
  have list := vRetryList_readInfo kind bRetry (pending_perform reports)
  simp only [List.nil_append] at list
  simp only [multiExec, list]
  cases bRetry with
  | true => rfl
  | false =>
      have none_kept : keptHandles kind false finished = [] := by
        apply List.eq_nil_iff_forall_not_mem.mpr
        intro easy member
        rcases (mem_keptHandles kind false).mp member with ⟨result, _, kept⟩
        cases fate_kept_retries kind _ kept
      rw [none_kept]
      rfl

theorem handle_multiExec (reports : multi.Reports finished) {easy result : Nat}
    (member : (easy, result) ∈ finished) :
    ((multi.multiExec kind bRetry finished).2).handle easy =
      (fate kind bRetry result).final easy (multi.callsWith easy) := by
  have read := handle_readInfo kind bRetry (pending_perform reports) member
  rw [multiExec_eq kind bRetry reports]
  by_cases kept : fate kind bRetry result = .kept
  · have inside := (mem_keptHandles kind bRetry).mpr ⟨result, member, kept⟩
    rw [handle_addAgain (keptHandles_nodup kind bRetry reports)
      (removed_readInfo kind bRetry reports) inside, kept]
    rw [kept] at read
    simp only [handle, Fate.outcome, Prod.mk.injEq] at read
    rw [read.2, List.append_assoc]
    rfl
  · have outside : easy ∉ keptHandles kind bRetry finished := by
      intro inside
      rcases (mem_keptHandles kind bRetry).mp inside with ⟨result', member', kept'⟩
      rw [result_unique reports.1 member member'] at kept
      exact kept kept'
    rw [handle_addAgain_other (keptHandles_nodup kind bRetry reports)
      (removed_readInfo kind bRetry reports) outside, read]
    cases is : fate kind bRetry result with
    | discarded => rfl
    | kept => exact absurd is kept
    | dropped => rfl

theorem handle_multiExec_other (reports : multi.Reports finished) {other : Nat}
    (absent : other ∉ finished.map Prod.fst) :
    ((multi.multiExec kind bRetry finished).2).handle other = multi.handle other := by
  have outside : other ∉ keptHandles kind bRetry finished := by
    intro inside
    rcases (mem_keptHandles kind bRetry).mp inside with ⟨result, member, _⟩
    exact absent (List.mem_map_of_mem member)
  rw [multiExec_eq kind bRetry reports,
    handle_addAgain_other (keptHandles_nodup kind bRetry reports)
      (removed_readInfo kind bRetry reports) outside,
    handle_readInfo_other kind bRetry (pending_perform reports) absent]
  simp only [handle, perform, absent, if_false]
  rfl

theorem misused_multiExec (reports : multi.Reports finished) :
    ((multi.multiExec kind bRetry finished).2).misused = multi.misused := by
  rw [multiExec_eq kind bRetry reports, misused_addAgain (keptHandles_nodup kind bRetry reports)
    (removed_readInfo kind bRetry reports), misused_readInfo kind bRetry (pending_perform reports)]
  rfl

end Exec

/-! ## Whole runs -/

/-- Every handle whose transfer was reported has been removed and cleaned up,
once each, or with a retry removed and added again, once each. -/
def Settled (bRetry : Bool) (finished : List CurlMsg) (before after : CurlMulti) : Prop :=
  forall easy, easy ∈ finished.map Prod.fst ->
    (after.easy easy = .cleaned ∧
      after.callsWith easy = before.callsWith easy ++ [.remove easy, .cleanup easy]) ∨
    (bRetry = true ∧ after.easy easy = .added ∧
      after.callsWith easy = before.callsWith easy ++ [.remove easy, .add easy])

/-- No handle whose transfer was reported is still in the multi handle, and
none has been passed to the library after its cleanup. -/
structure Sound (multi : CurlMulti) : Prop where
  noneStays : forall easy, multi.easy easy ≠ .reported
  unmisused : multi.misused = false

end CurlMulti

namespace CurlClass

/-- The results for which the class removes the handle. -/
def treated : CurlClass -> List Nat
  | .curlHttp => [curleOk, curleSendError, curleRecvError, curleOperationTimedout]
  | .curlSsl =>
      [curleOk, curleCouldntConnect, curleRecvError, curleOperationTimedout,
        curleSslCacert]

end CurlClass

namespace CurlMulti

theorem onResult_treated_iff (kind : CurlClass) (result : Nat) :
    result ∈ kind.treated ↔
      kind.onResult result = .removeRequest ∨ kind.onResult result = .checkRetry := by
  cases kind with
  | curlHttp =>
      simp only [CurlClass.treated, CurlClass.onResult, CurlClass.httpOnResult, List.mem_cons,
        List.not_mem_nil, or_false]
      split
      case isTrue ok => simp [ok]
      case isFalse ok =>
        split
        case isTrue connect =>
          simp [connect, curleCouldntConnect, curleOk, curleSendError, curleRecvError,
            curleOperationTimedout]
        case isFalse => split <;> simp_all
  | curlSsl =>
      simp only [CurlClass.treated, CurlClass.onResult, CurlClass.sslOnResult, List.mem_cons,
        List.not_mem_nil, or_false]
      split
      case isTrue ok => simp [ok]
      case isFalse => split <;> simp_all

theorem fate_dropped_iff (kind : CurlClass) (bRetry : Bool) (result : Nat) :
    fate kind bRetry result = .dropped ↔ result ∉ kind.treated := by
  rw [onResult_treated_iff]
  unfold fate
  cases kind.onResult result <;> cases bRetry <;> simp

section Runs

variable {kind : CurlClass}

/-- One `MultiExec` settles what was reported to it exactly when the class
treats every result. -/
theorem settled_iff_treated {bRetry : Bool} {finished : List CurlMsg} {multi : CurlMulti}
    (reports : multi.Reports finished) :
    Settled bRetry finished multi (multi.multiExec kind bRetry finished).2 ↔
      forall message, message ∈ finished -> message.2 ∈ kind.treated := by
  constructor
  · intro settled message member
    by_contra untreated
    have dropped := (fate_dropped_iff kind bRetry message.2).mpr untreated
    have after := handle_multiExec kind bRetry reports
      (show (message.1, message.2) ∈ finished from member)
    rw [dropped] at after
    simp only [handle, Fate.final, Prod.mk.injEq] at after
    rcases settled message.1 (List.mem_map_of_mem member) with ⟨state, _⟩ | ⟨_, state, _⟩
    · rw [after.1] at state
      cases state
    · rw [after.1] at state
      cases state
  · intro treated easy inside
    rcases List.mem_map.mp inside with ⟨message, member, rfl⟩
    have after := handle_multiExec kind bRetry reports
      (show (message.1, message.2) ∈ finished from member)
    cases is : fate kind bRetry message.2 with
    | discarded =>
        rw [is] at after
        simp only [handle, Fate.final, Prod.mk.injEq] at after
        exact Or.inl after
    | kept =>
        rw [is] at after
        simp only [handle, Fate.final, Prod.mk.injEq] at after
        exact Or.inr ⟨fate_kept_retries kind _ is, after⟩
    | dropped => exact absurd (treated message member) ((fate_dropped_iff kind bRetry _).mp is)

theorem sound_addRequest {multi : CurlMulti} (sound : multi.Sound) (handle : Bool) :
    (multi.addRequest handle).2.Sound := by
  cases handle with
  | false => exact sound
  | true =>
      have removed : multi.easyInit.easy multi.made = .removed := by simp [easyInit, setEasy]
      simp only [addRequest, if_true]
      rw [addHandle_eq removed]
      constructor
      · intro easy
        by_cases same : easy = multi.made
        · simp [setEasy, same]
        · have before := sound.noneStays easy
          simpa [setEasy, called, easyInit, same] using before
      · exact sound.unmisused

theorem sound_multiExec {multi : CurlMulti} (sound : multi.Sound) {bRetry : Bool}
    {finished : List CurlMsg} (reports : multi.Reports finished)
    (treated : forall message, message ∈ finished -> message.2 ∈ kind.treated) :
    (multi.multiExec kind bRetry finished).2.Sound := by
  constructor
  · intro easy
    by_cases inside : easy ∈ finished.map Prod.fst
    · have settled : Settled bRetry finished multi (multi.multiExec kind bRetry finished).2 :=
        (settled_iff_treated reports).mpr treated
      rcases settled easy inside with ⟨state, _⟩ | ⟨_, state, _⟩
      · simp [state]
      · simp [state]
    · have same := handle_multiExec_other kind bRetry reports inside
      simp only [handle, Prod.mk.injEq] at same
      rw [same.1]
      exact sound.noneStays easy
  · rw [misused_multiExec kind bRetry reports]
    exact sound.unmisused

theorem sound_initial : Sound initial where
  noneStays := by
    intro easy
    simp [initial]
  unmisused := rfl

/-- Every result reported in the events is one that the class treats. -/
def AllTreated (kind : CurlClass) (events : List CurlEvent) : Prop :=
  forall bRetry finished, .multiExec bRetry finished ∈ events ->
    forall message, message ∈ finished -> message.2 ∈ kind.treated

theorem Sound.step {multi next : CurlMulti} {event : CurlEvent} (sound : multi.Sound)
    (step : CurlStep kind multi event next)
    (treated : forall bRetry finished, event = .multiExec bRetry finished ->
      forall message, message ∈ finished -> message.2 ∈ kind.treated) : next.Sound := by
  cases step with
  | addRequest handle => exact sound_addRequest sound handle
  | multiExec bRetry finished reports =>
      exact sound_multiExec sound reports (treated bRetry finished rfl)

theorem Sound.run {multi last : CurlMulti} {events : List CurlEvent} (sound : multi.Sound)
    (run : Run (CurlStep kind) multi events last) (treated : AllTreated kind events) :
    last.Sound := by
  induction run with
  | nil => exact sound
  | cons once _ inductionHypothesis =>
      apply inductionHypothesis
      · apply sound.step once
        intro bRetry finished same
        exact treated bRetry finished (same ▸ List.mem_cons_self ..)
      · intro bRetry finished member
        exact treated bRetry finished (List.mem_cons_of_mem _ member)

/-- After each `MultiExec` of the run, what was reported is settled and the
multi handle is sound. -/
def SettlesAll (kind : CurlClass) (events : List CurlEvent) : Prop :=
  forall before bRetry finished after multi next,
    events = before ++ .multiExec bRetry finished :: after ->
    Run (CurlStep kind) initial before multi ->
    CurlStep kind multi (.multiExec bRetry finished) next ->
      Settled bRetry finished multi next ∧ next.Sound

/-- Over any sequence of calls, transfers are settled exactly when every result
reported is one that the class treats. -/
theorem settlesAll_iff_allTreated {events : List CurlEvent} {last : CurlMulti}
    (run : Run (CurlStep kind) initial events last) :
    SettlesAll kind events ↔ AllTreated kind events := by
  constructor
  · intro settles bRetry finished member
    rcases List.append_of_mem member with ⟨before, after, split⟩
    rw [split] at run
    rcases run.split with ⟨multi, left, right⟩
    cases right with
    | cons once _ =>
        have settled := (settles before bRetry finished after multi _ split left once).1
        cases once with
        | multiExec _ _ reports => exact (settled_iff_treated reports).mp settled
  · intro treated before bRetry finished after multi next split left once
    have here : forall message, message ∈ finished -> message.2 ∈ kind.treated := by
      apply treated bRetry finished
      simp [split]
    have sound : multi.Sound := by
      apply sound_initial.run left
      intro other messages member
      apply treated other messages
      simp [split, member]
    have after_sound := sound.step once (by rintro _ _ ⟨⟩; exact here)
    cases once with
    | multiExec _ _ reports => exact ⟨(settled_iff_treated reports).mpr here, after_sound⟩

/-- The hypothesis at a run of two calls, a request and its success. -/
theorem settlesAll_of_success :
    Run (CurlStep .curlSsl) initial [.addRequest true, .multiExec true [(0, 0)]]
        (((initial.addRequest true).2).multiExec .curlSsl true [(0, 0)]).2 ∧
      (SettlesAll .curlSsl [.addRequest true, .multiExec true [(0, 0)]] ↔
        AllTreated .curlSsl [.addRequest true, .multiExec true [(0, 0)]]) := by
  have run : Run (CurlStep .curlSsl) initial [.addRequest true, .multiExec true [(0, 0)]]
      (((initial.addRequest true).2).multiExec .curlSsl true [(0, 0)]).2 := by
    apply Run.cons (CurlStep.addRequest initial true)
    apply Run.single
    apply CurlStep.multiExec
    unfold Reports
    decide
  exact ⟨run, settlesAll_iff_allTreated run⟩

/-- A plain request that could not connect stays in the multi handle. -/
theorem not_settlesAll_of_couldnt_connect :
    Not (forall (kind : CurlClass) (events : List CurlEvent) (last : CurlMulti),
      Run (CurlStep kind) initial events last -> SettlesAll kind events) := by
  intro always
  have reports : ((initial.addRequest true).2).Reports [(0, curleCouldntConnect)] := by
    unfold Reports
    decide
  have first := @CurlStep.addRequest .curlHttp initial true
  have second := @CurlStep.multiExec .curlHttp _ true _ reports
  have settled := (always .curlHttp _ _ (.cons first (.single second)) [.addRequest true] true _
    [] _ _ rfl (.single first) second).1 0 (by simp)
  have stays : (((initial.addRequest true).2).multiExec .curlHttp true
      [(0, curleCouldntConnect)]).2.easy 0 = .reported := by decide
  rcases settled with ⟨state, _⟩ | ⟨_, state, _⟩
  · rw [stays] at state
    cases state
  · rw [stays] at state
    cases state

end Runs

end CurlMulti

end NetSystem
