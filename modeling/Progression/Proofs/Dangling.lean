-- Coins that are left behind. A payment over HTTP reports only the fault of
-- its last attempt, so a refusal hides the doubt about an attempt before it,
-- and nobody gives back the coins which that attempt may have reserved.
import Mathlib
import Progression.LevelUp
import Progression.Proofs.Interleaving
import Progression.Proofs.Retrying

namespace Progression

open Gateway

namespace Gateway

/-! ## Calls over HTTP -/

/-- What an attempt of a call means. -/
def Client.outcome (client : Client) (call : GatewayCall) (network : Network) :
    Nat → Except PaymentFault Payload :=
  Gateway.outcome (operationOf call) (client.request call) network

/-- An attempt of the call has failed ambiguously, so the gateway may have done its work. -/
def Client.InDoubt (client : Client) (call : GatewayCall) (network : Network) : Prop :=
  ∃ number, 1 ≤ number ∧ number ≤ (client.exchange call network).requests.length ∧
    isRetried (client.outcome call network number) = true

/-- A call in doubt reports a refusal exactly if one of its attempts is refused after a doubt. -/
theorem Client.refused_in_doubt_iff (client : Client) (call : GatewayCall) (network : Network) :
    (client.InDoubt call network ∧ IsRefused (client.exchange call network).result) ↔
      RefusedAfterDoubt (client.outcome call network) (attemptsOf client.retries) := by
  obtain ⟨last, ends, hresult, hrequests⟩ := send_endsAt (operationOf call) (client.request call)
    client.retries network
  unfold Client.InDoubt Client.exchange
  rw [hresult, hrequests, List.length_replicate]
  exact ends.refused_iff

/-- A payment is reserved when an attempt gets a good response; what the response says does not
matter. -/
theorem Client.ask_initiate (client : Client) (user : UserId) (amount : Coins)
    (payment : PaymentId) (network : Network) :
    client.ask (.initiate user amount payment) network
      = (client.exchange (.initiate user amount payment) network).result.map fun _ => () := by
  unfold Client.ask
  split
  · rename_i hr
    rw [hr]
    rfl
  · rename_i hr
    rw [hr]
    rfl

/-- A reservation that is reported as refused is one that the exchange has refused. -/
theorem Client.isRefused_iff {client : Client} {user : UserId} {amount : Coins}
    {payment : PaymentId} {network : Network} {reply : Except PaymentFault Unit}
    (h : reply = client.ask (.initiate user amount payment) network) :
    IsRefused (client.exchange (.initiate user amount payment) network).result ↔
      ∃ fault, reply = .error fault ∧ fault.isAmbiguous = false := by
  rw [Client.ask_initiate] at h
  unfold IsRefused
  rw [h]
  cases (client.exchange (.initiate user amount payment) network).result with
  | ok => simp [Except.map]
  | error fault => simp [Except.map]

/-- The network that each call to the gateway meets. The other collaborators reply as they like. -/
def Client.replies (client : Client) : Collaborators (GatewayCall → Network)
  | networks, .gateway c, reply, networks' =>
    networks' = networks ∧ reply = client.ask c (networks c)
  | networks, _, _, networks' => networks' = networks

end Gateway

namespace LevelUp

/-! ## A settlement, deed by deed -/

/-- What a settlement has done, and what it still has to do. -/
inductive Settling (user : UserId) (fromLevel : Level) (price : Coins) (payment : PaymentId) :
    List Deed → Plan TaskResult → Prop
  | asked : Settling user fromLevel price payment [] (settle user fromLevel price payment)
  | refused {fault : PaymentFault} (clear : fault.isAmbiguous = false) :
      Settling user fromLevel price payment
        [.called (.gateway (.initiate user price payment)) (.error fault)]
        (.done (.error (.payment fault)))
  | doubtful {fault : PaymentFault} (ambiguous : fault.isAmbiguous = true) :
      Settling user fromLevel price payment
        [.called (.gateway (.initiate user price payment)) (.error fault)]
        (release payment (.payment fault))
  | released {fault : PaymentFault} (ambiguous : fault.isAmbiguous = true)
      (reply : Except PaymentFault Unit) :
      Settling user fromLevel price payment
        [.called (.gateway (.initiate user price payment)) (.error fault),
          .called (.gateway (.finalize payment false)) reply]
        (.done (.error (.payment fault)))
  | reserved :
      Settling user fromLevel price payment
        [.called (.gateway (.initiate user price payment)) (.ok ())]
        (advancePaid user fromLevel payment)
  /-- What follows the move does not matter here. -/
  | moved (reply : Except StoreFault Level) (ds : List Deed) (plan : Plan TaskResult) :
      Settling user fromLevel price payment
        (.called (.gateway (.initiate user price payment)) (.ok ()) ::
          .called (.store (.incrementLevel user fromLevel)) reply :: ds) plan

variable {user : UserId} {fromLevel : Level} {price : Coins} {payment : PaymentId}

theorem Settling.step {ds : List Deed} {p q : Plan TaskResult} {d : Deed}
    (h : Settling user fromLevel price payment ds p) (step : p.Step d q) :
    Settling user fromLevel price payment (ds ++ [d]) q := by
  cases h with
  | asked =>
    cases step with
    | call reply =>
      rcases reply with fault | _
      · cases ambiguous : fault.isAmbiguous with
        | true =>
          simp only [ambiguous, if_true]
          exact .doubtful ambiguous
        | false =>
          simp only [ambiguous, Bool.false_eq_true, if_false, Plan.forward_done]
          exact .refused ambiguous
      · exact .reserved
  | refused | released => exact absurd step (Plan.Over.no_step trivial)
  | doubtful ambiguous =>
    cases step with
    | call reply =>
      rw [Plan.forward_done]
      exact .released ambiguous reply
  | reserved =>
    cases step with
    | call reply => exact .moved reply [] _
  | moved reply ds => exact .moved reply (ds ++ [d]) q

end LevelUp

open LevelUp

variable {ι : Type} [DecidableEq ι] {client : Client} {user : UserId} {fromLevel : Level}
  {price : Coins} {payment : PaymentId} {h : History ι} {i : ι}
  {s t : System (GatewayCall → Network) fun _ : ι => TaskResult}

/-- Each call to the gateway is answered as its network has it. -/
theorem System.Run.replied (run : System.Run client.replies s h t) :
    t.world = s.world ∧ ∀ j c reply, (j, .called (.gateway c) reply) ∈ h →
      reply = client.ask c (s.world c) := by
  induction run with
  | start => exact ⟨rfl, fun _ _ _ hm => by cases hm⟩
  | @turn h t u j d _ turn ih =>
    obtain ⟨hw, ih⟩ := ih
    cases turn with
    | @call c reply _ world step reply_ok =>
      have hworld : world = t.world := by
        cases c with
        | gateway => exact reply_ok.1
        | _ => exact reply_ok
      refine ⟨hworld.trans hw, fun k c' reply' hm => ?_⟩
      rcases List.mem_append.mp hm with hm | hm
      · exact ih k c' reply' hm
      · cases List.mem_singleton.mp hm
        rw [← hw]
        exact reply_ok.2
    | take =>
      refine ⟨hw, fun k c' reply' hm => ?_⟩
      rcases List.mem_append.mp hm with hm | hm
      · exact ih k c' reply' hm
      · cases List.mem_singleton.mp hm

/-- A settlement in doubt about its reservation that neither moves the character nor gives the
coins back is one whose reservation is reported as refused, although it is in doubt. That is so if
a refusal has followed a doubt, and only then. -/
theorem coins_are_left_behind_iff_a_refusal_follows_a_doubt
    (run : System.Run client.replies s h t) (hi : s.plans i = settle user fromLevel price payment)
    (ended : (t.plans i).Over) :
    ((client.InDoubt (.initiate user price payment) (s.world (.initiate user price payment)) ∧
      (∀ reply, .called (.store (.incrementLevel user fromLevel)) reply ∉ h.of i) ∧
      ∀ reply, .called (.gateway (.finalize payment false)) reply ∉ h.of i) ↔
    client.InDoubt (.initiate user price payment) (s.world (.initiate user price payment)) ∧
      IsRefused (client.exchange (.initiate user price payment)
        (s.world (.initiate user price payment))).result) ∧
    (client.InDoubt (.initiate user price payment) (s.world (.initiate user price payment)) ∧
      IsRefused (client.exchange (.initiate user price payment)
        (s.world (.initiate user price payment))).result ↔
    RefusedAfterDoubt
      (client.outcome (.initiate user price payment) (s.world (.initiate user price payment)))
      (attemptsOf client.retries)) := by
  refine ⟨?_, client.refused_in_doubt_iff _ _⟩
  have settling : Settling user fromLevel price payment (h.of i) (t.plans i) :=
    run.party (Settling user fromLevel price payment) (hi ▸ .asked) fun _ _ _ _ => .step
  have refused_iff (reply : Except PaymentFault Unit)
      (hm : .called (.gateway (.initiate user price payment)) reply ∈ h.of i) :=
    Client.isRefused_iff
      (run.replied.2 i (.initiate user price payment) reply (History.mem_of.mp hm))
  generalize h.of i = ds at settling refused_iff ⊢
  generalize t.plans i = p at settling ended
  cases settling with
  | asked | doubtful | reserved => cases ended
  | @refused fault clear =>
    have refused := (refused_iff _ (List.mem_singleton.mpr rfl)).mpr ⟨fault, rfl, clear⟩
    constructor
    · rintro ⟨doubt, -, -⟩
      exact ⟨doubt, refused⟩
    · rintro ⟨doubt, -⟩
      exact ⟨doubt, by simp, by simp⟩
  | @released fault ambiguous reply =>
    constructor
    · rintro ⟨-, -, kept⟩
      exact absurd (List.mem_cons_of_mem _ (List.mem_singleton.mpr rfl)) (kept reply)
    · rintro ⟨-, refused⟩
      obtain ⟨fault', hf, clear⟩ := (refused_iff (.error fault) (by simp)).mp refused
      cases hf
      rw [clear] at ambiguous
      cases ambiguous
  | moved reply ds =>
    constructor
    · rintro ⟨-, stays, -⟩
      exact absurd (List.mem_cons_of_mem _ List.mem_cons_self) (stays reply)
    · rintro ⟨-, refused⟩
      obtain ⟨fault, hf, -⟩ := (refused_iff (.ok ()) (by simp)).mp refused
      cases hf

/-! ## Two networks -/

/-- A client that tries each call twice. -/
def aClient : Client := ⟨"http://[::1]", "http://[::1]", 1⟩

/-- The first attempt of each call times out, and the second one is refused. -/
def refusing : Network := fun number _ =>
  if number = 1 then .timedOut else .response 402 (.ok ⟨[], ""⟩)

/-- All attempts of all calls time out. -/
def silent : Network := fun _ _ => .timedOut

set_option maxRecDepth 10000 in
/-- Nobody knows whether the first attempt has reserved the coins, and nobody gives them back. -/
theorem a_refusal_hides_a_doubt :
    ∃ h t, System.Run aClient.replies
        ⟨fun _ => refusing, ∅, fun _ : Unit => settle 7 1 100 ⟨1⟩⟩ h t ∧
      t.plans () = .done (.error (.payment (.rejected "initiate_payment" 402 ""))) ∧
      aClient.InDoubt (.initiate 7 100 ⟨1⟩) refusing ∧
      h = [((), .called (.gateway (.initiate 7 100 ⟨1⟩))
        (.error (.rejected "initiate_payment" 402 "")))] := by
  let start : System (GatewayCall → Network) fun _ : Unit => TaskResult :=
    ⟨fun _ => refusing, ∅, fun _ => settle 7 1 100 ⟨1⟩⟩
  have nothing : System.Run aClient.replies start [] start := .start
  have reply : .error (.rejected "initiate_payment" 402 "")
      = aClient.ask (.initiate 7 100 ⟨1⟩) refusing := by cbv
  have twice : (aClient.exchange (.initiate 7 100 ⟨1⟩) refusing).requests.length = 2 := by cbv
  have doubt : isRetried (aClient.outcome (.initiate 7 100 ⟨1⟩) refusing 1) = true := by cbv
  obtain ⟨t, run, hp, -⟩ := nothing.called (i := ()) rfl (.call _) ⟨rfl, reply⟩
  refine ⟨_, t, run, hp, ⟨1, Nat.le_refl 1, ?_, doubt⟩, rfl⟩
  rw [twice]
  exact Nat.le_succ 1

set_option maxRecDepth 10000 in
/-- A doubt that lasts to the end is made good, so no refusal has followed it. -/
theorem a_lasting_doubt_is_made_good :
    ∃ h t, System.Run aClient.replies
        ⟨fun _ => silent, ∅, fun _ : Unit => settle 7 1 100 ⟨1⟩⟩ h t ∧
      (t.plans ()).Over ∧
      ((), .called (.gateway (.finalize ⟨1⟩ false)) (.error (.timeout 2))) ∈ h ∧
      ¬ RefusedAfterDoubt (aClient.outcome (.initiate 7 100 ⟨1⟩) silent)
        (attemptsOf aClient.retries) := by
  let start : System (GatewayCall → Network) fun _ : Unit => TaskResult :=
    ⟨fun _ => silent, ∅, fun _ => settle 7 1 100 ⟨1⟩⟩
  have nothing : System.Run aClient.replies start [] start := .start
  have asked : .error (.timeout 2) = aClient.ask (.initiate 7 100 ⟨1⟩) silent := by cbv
  have released : .error (.timeout 2) = aClient.ask (.finalize ⟨1⟩ false) silent := by cbv
  obtain ⟨s, run, hp, hw, -⟩ := nothing.called (i := ()) rfl (.call _) ⟨rfl, asked⟩
  have gives : (release ⟨1⟩ (.payment (.timeout 2))).Step
      (.called (.gateway (.finalize ⟨1⟩ false)) (Except.error (.timeout 2)))
      (.done (.error (.payment (.timeout 2)))) := .of_eq (.call _) (Plan.forward_done _)
  have given : aClient.replies s.world (.gateway (.finalize ⟨1⟩ false)) (Except.error (.timeout 2))
      start.world := by
    rw [hw]
    exact ⟨rfl, released⟩
  obtain ⟨t, run, hp, -⟩ := run.called hp gives given
  have ended : (t.plans ()).Over := hp ▸ trivial
  refine ⟨_, t, run, ended, by simp, fun refused => ?_⟩
  obtain ⟨behind, hidden⟩ := coins_are_left_behind_iff_a_refusal_follows_a_doubt run rfl ended
  obtain ⟨-, -, kept⟩ := behind.mpr (hidden.mpr refused)
  exact kept (.error (.timeout 2)) (History.mem_of.mpr (by simp))

end Progression
