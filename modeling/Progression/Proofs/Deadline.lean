-- The deadline of a request covers the slowest level-up. However the
-- gateway, the store and the cache answer, a level-up waits for at most
-- three exchanges with the gateway one after another, and the deadline
-- leaves time for all their attempts and pauses.
import Mathlib
import Progression.LevelUp
import Progression.Gateway.Client
import Progression.Proofs.Budget
import Progression.Proofs.Interleaving
import Progression.Proofs.JsonRoundTrip

namespace Progression

namespace Plan

/-! ## How long a plan takes -/

section Takes

variable {α β : Type}

/-- A plan that has ended. -/
def ended : Except Overflow α → Plan α
  | .ok a => .done a
  | .error cause => .overflow cause

/-- What a plan that ends like that after `n` has come to at a time. -/
def asOf (p : Plan α) (n : Nat) (ending : Except Overflow α) (now : Nat) : Plan α :=
  if n ≤ now then ended ending else p

/-- The plan that follows, unless what it follows has ended at a sum out of range. -/
def resume (next : β → Plan α) : Except Overflow β → Plan α
  | .ok b => next b
  | .error cause => .overflow cause

/-- The plan takes so long and ends like that, if each call is answered like that and takes so long.
Two plans at once take the time until it is known how both end; a task is waited for. -/
inductive Takes (serves : (c : Call) → c.Reply → Nat → Prop) :
    {α : Type} → Plan α → Nat → Except Overflow α → Prop
  | done {α : Type} (a : α) : Takes serves (.done a) 0 (.ok a)
  | overflow {α : Type} (cause : Overflow) :
      Takes serves (.overflow (α := α) cause) 0 (.error cause)
  | call {α : Type} {c : Call} {next : c.Reply → Plan α} {reply : c.Reply} {m n : Nat}
      {ending : Except Overflow α} (served : serves c reply m)
      (rest : Takes serves (next reply) n ending) : Takes serves (.call c next) (m + n) ending
  | newPayment {α : Type} {next : PaymentId → Plan α} {n : Nat} {ending : Except Overflow α}
      (payment : PaymentId) (rest : Takes serves (next payment) n ending) :
      Takes serves (.newPayment next) n ending
  | both {α β γ ε : Type} {l : Plan (Except ε β)} {r : Plan (Except ε γ)}
      {next : Except ε (β × γ) → Plan α} {m n now rest : Nat} {lend : Except Overflow (Except ε β)}
      {rend : Except Overflow (Except ε γ)} {result : Except Overflow (Except ε (β × γ))}
      {ending : Except Overflow α} (left : Takes serves l m lend) (right : Takes serves r n rend)
      (known : joint (l.asOf m lend now) (r.asOf n rend now) = some result)
      (unknown : ∀ before < now, joint (l.asOf m lend before) (r.asOf n rend before) = none)
      (after : Takes serves (resume next result) rest ending) :
      Takes serves (.both l r next) (now + rest) ending
  | detach {α : Type} {t : Plan TaskResult} {next : Option TaskResult → Plan α} {m n : Nat}
      {result : Except Overflow TaskResult} {ending : Except Overflow α}
      (task : Takes serves t m result) (after : Takes serves (next result.toOption) n ending) :
      Takes serves (.detach t next) (m + n) ending

variable {serves : (c : Call) → c.Reply → Nat → Prop}

/-- Once both plans have ended it is known how. -/
theorem joint_ended {β γ ε : Type} (l : Plan (Except ε β)) (r : Plan (Except ε γ)) (m n : Nat)
    (lend : Except Overflow (Except ε β)) (rend : Except Overflow (Except ε γ)) :
    ∃ result, joint (l.asOf m lend (max m n)) (r.asOf n rend (max m n)) = some result := by
  unfold asOf
  rw [if_pos (Nat.le_max_left ..), if_pos (Nat.le_max_right ..)]
  rcases lend with cause | (e | b) <;> rcases rend with cause' | (e' | c) <;> exact ⟨_, rfl⟩

/-- If every call is answered, every plan comes to an end. -/
theorem exists_takes (served : ∀ c, ∃ reply n, serves c reply n) (p : Plan α) :
    ∃ n ending, p.Takes serves n ending := by
  induction p with
  | done a => exact ⟨0, _, .done a⟩
  | overflow cause => exact ⟨0, _, .overflow cause⟩
  | call c next ih =>
    obtain ⟨reply, m, hserved⟩ := served c
    obtain ⟨n, ending, rest⟩ := ih reply
    exact ⟨m + n, ending, .call hserved rest⟩
  | newPayment next ih =>
    obtain ⟨n, ending, rest⟩ := ih ⟨0⟩
    exact ⟨n, ending, .newPayment _ rest⟩
  | both l r next ihl ihr ihn =>
    obtain ⟨m, lend, left⟩ := ihl
    obtain ⟨n, rend, right⟩ := ihr
    -- The first of the times at which it is known how both end.
    have some_time : ∃ now, joint (l.asOf m lend now) (r.asOf n rend now) ≠ none := by
      obtain ⟨result, known⟩ := joint_ended l r m n lend rend
      exact ⟨max m n, by simp [known]⟩
    obtain ⟨result, known⟩ := Option.ne_none_iff_exists'.mp (Nat.find_spec some_time)
    have unknown : ∀ before < Nat.find some_time,
        joint (l.asOf m lend before) (r.asOf n rend before) = none := fun before hlt =>
      not_not.mp (Nat.find_min some_time hlt)
    rcases result with cause | result
    · exact ⟨_, _, .both left right known unknown (.overflow cause)⟩
    · obtain ⟨k, ending, rest⟩ := ihn result
      exact ⟨_, ending, .both left right known unknown rest⟩
  | detach t next iht ihn =>
    obtain ⟨m, result, task⟩ := iht
    obtain ⟨n, ending, rest⟩ := ihn result.toOption
    exact ⟨m + n, ending, .detach task rest⟩

/-- What is done one after another takes the sum of the times. -/
theorem Takes.bind {p : Plan α} {f : α → Plan β} {a : α} {m n : Nat} {ending : Except Overflow β}
    (hp : p.Takes serves m (.ok a)) (hf : (f a).Takes serves n ending) :
    (p.bind f).Takes serves (m + n) ending := by
  generalize he : Except.ok a = mine at hp
  induction hp with
  | done b =>
    cases he
    rwa [Nat.zero_add]
  | overflow => cases he
  | call served _ ih =>
    rw [Nat.add_assoc]
    exact .call served (ih hf he)
  | newPayment payment _ ih => exact .newPayment payment (ih hf he)
  | @both _ _ _ _ _ _ _ _ _ _ _ _ _ result _ left right known unknown _ _ _ ih =>
    rw [Nat.add_assoc]
    refine .both left right known unknown ?_
    cases result with
    | ok => exact ih hf he
    | error => exact ih hf he
  | detach task _ _ ih =>
    rw [Nat.add_assoc]
    exact .detach task (ih hf he)

theorem Takes.andThen {ε : Type} {p : Plan (Except ε α)} {f : α → Plan (Except ε β)} {a : α}
    {m n : Nat} {ending : Except Overflow (Except ε β)} (hp : p.Takes serves m (.ok (.ok a)))
    (hf : (f a).Takes serves n ending) : (p.andThen f).Takes serves (m + n) ending := hp.bind hf

/-- A call that is answered at once takes no time. -/
theorem Takes.atOnce {c : Call} {next : c.Reply → Plan α} {n : Nat} {ending : Except Overflow α}
    (reply : c.Reply) (served : serves c reply 0) (rest : (next reply).Takes serves n ending) :
    (Plan.call c next).Takes serves n ending := by
  have h := Takes.call served rest
  rwa [Nat.zero_add] at h

end Takes

/-! ## Exchanges one after another -/

/-- The plan waits for at most that many exchanges with the gateway one after another. -/
def Rounds {α : Type} : Plan α → Nat → Prop
  | .done _, _ | .overflow _, _ => True
  | .call (.gateway _) next, k => ∃ m, k = m + 1 ∧ ∀ reply, (next reply).Rounds m
  | .call _ next, k => ∀ reply, (next reply).Rounds k
  | .newPayment next, k => ∀ payment, (next payment).Rounds k
  | .both left right next, k =>
    ∃ m n, k = m + n ∧ left.Rounds m ∧ right.Rounds m ∧ ∀ result, (next result).Rounds n
  | .detach task next, k => ∃ m n, k = m + n ∧ task.Rounds m ∧ ∀ result, (next result).Rounds n

section Rounds

variable {α β : Type} {p : Plan α} {k m n : Nat}

theorem Rounds.mono (h : p.Rounds m) (hmn : m ≤ n) : p.Rounds n := by
  induction p generalizing m n with
  | done | overflow => trivial
  | call c next ih =>
    cases c with
    | gateway c =>
      obtain ⟨k, rfl, hk⟩ := h
      exact ⟨n - 1, by omega, fun reply => ih reply (hk reply) (by omega)⟩
    | store | cache => exact fun reply => ih reply (h reply) hmn
  | newPayment next ih => exact fun payment => ih payment (h payment) hmn
  | both left right next _ _ ih =>
    obtain ⟨j, k, rfl, hl, hr, hn⟩ := h
    exact ⟨j, n - j, by omega, hl, hr, fun result => ih result (hn result) (by omega)⟩
  | detach task next _ ih =>
    obtain ⟨j, k, rfl, ht, hn⟩ := h
    exact ⟨j, n - j, by omega, ht, fun result => ih result (hn result) (by omega)⟩

theorem Rounds.bind {f : α → Plan β} (hp : p.Rounds m) (hf : ∀ a, (f a).Rounds n) :
    (p.bind f).Rounds (m + n) := by
  induction p generalizing m with
  | done a => exact (hf a).mono (by omega)
  | overflow => trivial
  | call c next ih =>
    cases c with
    | gateway c =>
      obtain ⟨k, rfl, hk⟩ := hp
      exact ⟨k + n, by omega, fun reply => ih reply (hk reply) hf⟩
    | store | cache => exact fun reply => ih reply (hp reply) hf
  | newPayment next ih => exact fun payment => ih payment (hp payment) hf
  | both left right next _ _ ih =>
    obtain ⟨j, k, rfl, hl, hr, hn⟩ := hp
    exact ⟨j, k + n, by omega, hl, hr, fun result => ih result (hn result) hf⟩
  | detach task next _ ih =>
    obtain ⟨j, k, rfl, ht, hn⟩ := hp
    exact ⟨j, k + n, by omega, ht, fun result => ih result (hn result) hf⟩

theorem Rounds.andThen {ε : Type} {p : Plan (Except ε α)} {f : α → Plan (Except ε β)}
    (hp : p.Rounds m) (hf : ∀ a, (f a).Rounds n) : (p.andThen f).Rounds (m + n) := by
  refine hp.bind fun result => ?_
  cases result with
  | ok a => exact hf a
  | error => trivial

theorem Rounds.resume {next : β → Plan α} (h : ∀ b, (next b).Rounds k)
    (result : Except Overflow β) : (resume next result).Rounds k := by
  cases result with
  | ok b => exact h b
  | error => trivial

/-- A plan takes no longer than its exchanges with the gateway, if nothing else takes time. -/
theorem Takes.le {serves : (c : Call) → c.Reply → Nat → Prop} {slowest : Nat}
    {ending : Except Overflow α} (h : p.Takes serves n ending)
    (gateway : ∀ c reply n, serves (.gateway c) reply n → n ≤ slowest)
    (store : ∀ c reply n, serves (.store c) reply n → n = 0)
    (cache : ∀ c reply n, serves (.cache c) reply n → n = 0) (rounds : p.Rounds k) :
    n ≤ k * slowest := by
  induction h generalizing k with
  | done | overflow => exact Nat.zero_le _
  | @call _ c next reply m n ending served rest ih =>
    cases c with
    | gateway c =>
      obtain ⟨j, rfl, hj⟩ := rounds
      have hm := gateway c reply m served
      have hn := ih (hj reply)
      rw [Nat.succ_mul]
      omega
    | store c =>
      have hm := store c reply m served
      have hn := ih (rounds reply)
      omega
    | cache c =>
      have hm := cache c reply m served
      have hn := ih (rounds reply)
      omega
  | newPayment payment _ ih => exact ih (rounds payment)
  | @both _ _ _ _ l r _ m n now rest lend rend result _ _ _ known unknown _ ihl ihr ih =>
    obtain ⟨i, j, rfl, hl, hr, hn⟩ := rounds
    have hm := ihl hl
    have hn' := ihr hr
    have hrest := ih (Rounds.resume hn result)
    have hnow : now ≤ max m n := by
      by_contra hlt
      obtain ⟨_, hknown⟩ := joint_ended l r m n lend rend
      rw [unknown (max m n) (by omega)] at hknown
      cases hknown
    rw [Nat.add_mul]
    omega
  | @detach _ _ _ _ _ result _ _ _ iht ih =>
    obtain ⟨i, j, rfl, ht, hn⟩ := rounds
    have hm := iht ht
    have hrest := ih (hn result.toOption)
    rw [Nat.add_mul]
    omega

end Rounds

end Plan

/-! ## The rounds of a level-up -/

section Rounds

variable (lifetimes : Lifetimes) (user : UserId)

theorem rounds_askStore (c : StoreCall) : (askStore c).Rounds 0 := fun _ => trivial

theorem rounds_cachedRead {α ε : Type} [Coded α] (key : Key) (lifetime : Span)
    {load : Plan (Except ε α)} (h : load.Rounds 0) : (cachedRead key lifetime load).Rounds 0 := by
  have fetch : (fetch? (α := α) key).Rounds 0 := by
    rintro (fault | (_ | text)) <;> trivial
  refine Plan.Rounds.bind (n := 0) fetch fun found => ?_
  cases found with
  | some => trivial
  | none => exact Plan.Rounds.andThen (n := 0) h fun _ _ => trivial

theorem LevelUp.rounds_currentLevel : (currentLevel lifetimes user).Rounds 0 :=
  Plan.Rounds.bind (n := 0) (rounds_cachedRead _ _ (rounds_askStore _)) fun _ => trivial

theorem Service.rounds_prices : (prices lifetimes).Rounds 0 :=
  rounds_cachedRead _ _ (Plan.Rounds.andThen (n := 0) (rounds_askStore _) fun _ => trivial)

namespace LevelUp

theorem rounds_release (payment : PaymentId) (refusal : Refusal) :
    (release payment refusal).Rounds 1 := ⟨0, rfl, fun _ => trivial⟩

theorem rounds_spend (payment : PaymentId) (level : Level) : (spend payment level).Rounds 1 := by
  refine ⟨0, rfl, fun reply => ?_⟩
  rcases reply with fault | _ <;> trivial

/-- The reservation, and then at most one settlement. -/
theorem rounds_settle (fromLevel : Level) (price : Coins) (payment : PaymentId) :
    (settle user fromLevel price payment).Rounds 2 := by
  refine ⟨1, rfl, fun reply => ?_⟩
  rcases reply with fault | _
  · dsimp only
    split
    · exact rounds_release payment _
    · trivial
  · intro reply
    rcases reply with fault | level
    · exact rounds_release payment _
    · exact rounds_spend payment level

theorem rounds_pay (fromLevel : Level) (path : PaymentPath) :
    (pay user fromLevel path).Rounds 2 := by
  cases path with
  | coins price => exact fun payment => rounds_settle user fromLevel price payment
  | free => exact Plan.Rounds.andThen (m := 2) (n := 0) (fun _ => trivial) fun _ => trivial

theorem rounds_refresh (result : TaskResult) : (refresh lifetimes user result).Rounds 0 := by
  unfold refresh
  split
  · exact fun _ _ => trivial
  · exact fun _ => trivial
  · trivial

theorem rounds_commit (fromLevel : Level) (path : PaymentPath) :
    (commit lifetimes user fromLevel path).Rounds 2 :=
  Plan.Rounds.bind (n := 0) (rounds_pay user fromLevel path) (rounds_refresh lifetimes user)

theorem rounds_report (balance : Coins) (path : PaymentPath) (result : Option TaskResult) :
    (report balance path result).Rounds 0 := by
  unfold report
  split
  · trivial
  · trivial
  · split <;> trivial

theorem rounds_buy (current : Level) (price : LevelPrice) (balance : Coins)
    (referrals : Referrals) : (buy lifetimes user current price balance referrals).Rounds 2 := by
  unfold buy
  split
  · trivial
  · exact ⟨2, 0, rfl, rounds_commit lifetimes user current _, rounds_report balance _⟩

/-- The two questions at once, and then what is bought. -/
theorem rounds_quote (current : Level) (prices : PriceList) :
    (quote lifetimes user current prices).Rounds gatewayRounds := by
  unfold quote
  split
  · trivial
  · split
    · trivial
    · refine ⟨1, 2, rfl, ⟨0, rfl, fun _ => trivial⟩, ⟨0, rfl, fun _ => trivial⟩, fun result => ?_⟩
      rcases result with fault | ⟨balance, referrals⟩
      · trivial
      · exact rounds_buy lifetimes user current _ balance referrals

end LevelUp

/-- A level-up waits for no more rounds than its deadline is made for. -/
theorem Service.rounds_levelUp : (levelUp lifetimes user).Rounds gatewayRounds :=
  Plan.Rounds.andThen (m := 0) (LevelUp.rounds_currentLevel lifetimes user) fun current =>
    Plan.Rounds.andThen (m := 0) (rounds_prices lifetimes) fun prices =>
      LevelUp.rounds_quote lifetimes user current prices

end Rounds

/-! ## A level-up over the network -/

namespace Gateway

/-- What comes of each attempt of each call, and how long it lasts until its body is read. -/
structure Conditions where
  network : GatewayCall → Network
  lasts : GatewayCall → Nat → Span

/-- A call to the gateway takes the time of its exchange. The store and the cache answer as they
like, and at once. -/
def Client.Serves (client : Client) (conditions : Conditions) :
    (c : Call) → c.Reply → Nat → Prop
  | .gateway c, reply, n => reply = client.ask c (conditions.network c) ∧
      n = (client.exchange c (conditions.network c)).nanos (conditions.lasts c) 1
  | .store _, _, n => n = 0
  | .cache _, _, n => n = 0

theorem Client.exists_serves (client : Client) (conditions : Conditions) (c : Call) :
    ∃ reply n, client.Serves conditions c reply n := by
  cases c with
  | gateway c => exact ⟨_, _, rfl, rfl⟩
  | store c => exact ⟨.error (.database .poolClosed), 0, rfl⟩
  | cache c => exact ⟨.error (.backend ""), 0, rfl⟩

end Gateway

open Gateway

/-- The deadline is no shorter than the configured timeout. If no attempt lasts longer than a client
waits for it, every level-up comes to an end, and that is two seconds before the deadline or sooner,
unless the deadline is the longest span there is. -/
theorem the_deadline_covers_the_slowest_level_up (s : Settings) :
    s.requestTimeout ≤ s.deadline ∧
    ∀ (lifetimes : Lifetimes) (user : UserId) (conditions : Conditions),
      (∀ c number, conditions.lasts c number ≤ s.clientTimeout) →
      (∃ n ending, (Service.levelUp lifetimes user).Takes
        ((Client.ofSettings s).Serves conditions) n ending) ∧
      ∀ n ending, (Service.levelUp lifetimes user).Takes
          ((Client.ofSettings s).Serves conditions) n ending →
        s.deadline = Span.longest ∨ n + 2 * nanosPerSecond ≤ s.deadline.nanos := by
  refine ⟨le_requestDeadline .., fun lifetimes user conditions short =>
    ⟨Plan.exists_takes ((Client.ofSettings s).exists_serves conditions) _,
      fun n ending takes => ?_⟩⟩
  have rounds := Service.rounds_levelUp lifetimes user
  have hn : n ≤ gatewayRounds * slowestNanos s.clientTimeout s.clientRetries := by
    refine takes.le (fun c reply n served => ?_) (fun _ _ _ h => h) (fun _ _ _ h => h) rounds
    obtain ⟨-, rfl⟩ := served
    exact nanos_send_le (short c) _ _ _ _
  have slack : deadlineSlack.nanos = 2 * nanosPerSecond := by decide
  rcases rounds_le_requestDeadline s.requestTimeout s.clientTimeout s.clientRetries with h | h
  · exact .inl h
  · right
    rw [Nat.mul_comm, slack] at h
    exact Nat.le_trans (Nat.add_le_add_right hn _) h

/-! ## A level-up that needs all the time it has -/

/-- Each call is made twice at most, and each attempt lasts five seconds at most. -/
def twoAttempts : Settings where
  databaseUrl := ""
  databaseMaxConnections := 10
  redisUrl := ""
  serverHost := "::1"
  serverPort := 3000
  userServiceUrl := "http://[::1]"
  referralServiceUrl := "http://[::1]"
  cacheLifetimeSecs := 3600
  pricesLifetimeSecs := 86400
  clientTimeoutSecs := 5
  clientRetries := 1
  requestTimeoutSecs := 15

/-- A body with the numbers that the two questions are for. -/
def aBody : Payload :=
  let text := "\x7b\"coins\":150,\"count\":0\x7d"
  .ok ⟨Utf8.encode text, text⟩

/-- The first attempt of each call times out, and the second one is answered at the last moment. -/
def lastMoment : Conditions where
  network _ number _ := if number = 1 then .timedOut else .response 200 aBody
  lasts _ _ := .ofSeconds 5

/-- How this client is served at the last moment. -/
def slowly : (c : Call) → c.Reply → Nat → Prop := (Client.ofSettings twoAttempts).Serves lastMoment

/-- Every call takes two attempts and the pause between them. -/
theorem slowly_gateway {c : GatewayCall} {answer : c.Answer}
    (good : answerOf c aBody = .ok answer) : slowly (.gateway c) (.ok answer) 10100000000 := by
  let request := (Client.ofSettings twoAttempts).request c
  have retries : attemptsOf (Client.ofSettings twoAttempts).retries - 1 = 1 := by decide
  have exchange : (Client.ofSettings twoAttempts).exchange c (lastMoment.network c)
      = ⟨.ok aBody, [request, request], [retryDelay 1]⟩ := by
    simp [Client.exchange, send, retries, sendFrom, Sent.after, request, lastMoment,
      Attempt.verdict, isRetried, PaymentFault.isAmbiguous]
  have pause : (retryDelay 1).nanos = 100000000 := by decide
  have attempt : (Span.ofSeconds 5).nanos = 5000000000 := by decide
  constructor
  · simp only [Client.ask, exchange, good]
  · rw [exchange]
    simp [Sent.nanos, lastMoment, pause, attempt]

/-- The character moves up and pays 100 of its 150 coins. -/
theorem takes_slowly (lifetimes : Lifetimes) :
    ∃ n, n = 3 * 10100000000 ∧
      (Service.levelUp lifetimes 7).Takes slowly n (.ok (.ok ⟨2, 50, false⟩)) := by
  have balance : slowly (.gateway (.balance 7)) (.ok 150) 10100000000 :=
    slowly_gateway (by cbv)
  have referrals : slowly (.gateway (.referrals 7)) (.ok 0) 10100000000 :=
    slowly_gateway (by cbv)
  have reserved : slowly (.gateway (.initiate 7 100 ⟨1⟩)) (.ok ()) 10100000000 :=
    slowly_gateway rfl
  have spent : slowly (.gateway (.finalize ⟨1⟩ true)) (.ok ()) 10100000000 :=
    slowly_gateway rfl
  -- The level and the prices are in the cache.
  have fetched {α : Type} [Coded α] {key : Key} {a : α} (kept : Kept a) :
      (fetch? key).Takes slowly 0 (.ok (some a)) := by
    refine .atOnce (.ok (some (encodeText a))) rfl ?_
    simp only [kept.decodeText?]
    exact .done _
  have read : (Service.level lifetimes 7).Takes slowly (0 + 0) (.ok (.ok 1)) :=
    (fetched (kept_int32 1)).bind (.done _)
  have level : (LevelUp.currentLevel lifetimes 7).Takes slowly (0 + 0 + 0) (.ok (.ok 1)) :=
    read.bind (.done _)
  let list : PriceList := ⟨[⟨2, 100, 0, 5⟩]⟩
  have prices : (Service.prices lifetimes).Takes slowly (0 + 0) (.ok (.ok list)) :=
    (fetched (kept_priceList list)).bind (.done _)
  have commit : (LevelUp.commit lifetimes 7 1 (.coins 100)).Takes slowly
      (10100000000 + (10100000000 + 0)) (.ok (.ok ⟨2, false⟩)) :=
    .newPayment ⟨1⟩ (.call reserved (.atOnce (.ok 2) rfl (.call spent
      (.atOnce (.ok ()) rfl (.atOnce (.ok ()) rfl (.done _))))))
  have quote : (LevelUp.quote lifetimes 7 1 list).Takes slowly
      (10100000000 + (10100000000 + (10100000000 + 0) + 0)) (.ok (.ok ⟨2, 50, false⟩)) := by
    refine .both (.call balance (.done _)) (.call referrals (.done _)) rfl (fun before hlt => ?_)
      (.detach commit (.done _))
    have late : ¬ 10100000000 + 0 ≤ before := by omega
    simp only [Plan.asOf, late, if_false]
    rfl
  have bought := prices.andThen (f := fun list => LevelUp.quote lifetimes 7 1 list) quote
  exact ⟨_, by decide, level.andThen bought⟩

/-- A level-up whose calls are all answered at the last moment ends two seconds before its
deadline, and not sooner. -/
theorem a_slow_level_up_needs_all_its_time :
    (∀ c number, lastMoment.lasts c number ≤ twoAttempts.clientTimeout) ∧
    ∃ n, (Service.levelUp ⟨.ofSeconds 3600, .ofSeconds 86400⟩ 7).Takes
        ((Client.ofSettings twoAttempts).Serves lastMoment) n (.ok (.ok ⟨2, 50, false⟩)) ∧
      n + 2 * nanosPerSecond = twoAttempts.deadline.nanos := by
  have short (c : GatewayCall) (number : Nat) :
      lastMoment.lasts c number ≤ twoAttempts.clientTimeout := Nat.le_refl _
  have deadline : twoAttempts.deadline.nanos = 3 * 10100000000 + 2 * nanosPerSecond := by cbv
  obtain ⟨n, rfl, takes⟩ := takes_slowly ⟨.ofSeconds 3600, .ofSeconds 86400⟩
  obtain ⟨-, covers⟩ := the_deadline_covers_the_slowest_level_up twoAttempts
  obtain ⟨-, ends⟩ := covers ⟨.ofSeconds 3600, .ofSeconds 86400⟩ 7 lastMoment short
  rcases ends _ _ takes with longest | sooner
  · rw [longest] at deadline
    cases deadline
  · exact ⟨short, _, takes, Nat.le_antisymm sooner (Nat.le_of_eq deadline)⟩

end Progression
