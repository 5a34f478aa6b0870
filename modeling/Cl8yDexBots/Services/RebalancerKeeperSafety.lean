import Cl8yDexBots.Services.RebalancerKeeper
import Cl8yDexBots.Services.TrackerSafety

/-! When the rebalancer keeper rebroadcasts: only after a broadcast command whose error text it takes for a
rejection. -/

namespace Cl8yDexBots.Services.RebalancerKeeperSafety

open Foundation.Checked Foundation.Durable Foundation.Attempts Values Tracker TrackerSafety RebalancerKeeper

/-- What the node's reply to a broadcast says. A command that failed brings no reply of the node. -/
def verdict : Except String Completed → Move Json
  | .ok result =>
    if result.returncode ≠ 0 then .idle
    else match checkTx result.document with
      | .ok hash => .accept hash
      | .error e => if e.deterministic then .reject else .idle
  | .error _ => .idle

def sighting (hash : Json) : Option FinalTx → Move Json
  | some _ => .observe (sameHash hash)
  | none => .idle

/-- A broadcast command that fails says so in words that tell a temporary failure. -/
def Plain : Event (Call Command) (Answer Reply) → Prop
  | .answered (.node (.broadcastSync _ _ _)) (.ok result) =>
    result.returncode = 0 ∨ isTransientText result.detail = true
  | _ => True

def reading : Reading Reply where
  move
    | .started (.node (.broadcastSync _ _ _)) => .start
    | .answered (.node (.broadcastSync _ _ _)) result => verdict result
    | .answered (.node (.lcdTx hash)) reply => sighting hash (lcdLookup hash reply)
    | .answered (.node (.rpcTx hash)) reply => sighting hash ((rpcLookup hash reply).toOption.join)
    | _ => .idle
  clear := Plain
  save_started := rfl
  save_answered _ := rfl

variable {s : Store} {l : Log Reply} {open_ : List (Attempt Json)}

lemma checkTx_truthy {document : Option Json} {hash : Json} (h : checkTx document = .ok hash) :
    hash.truthy = true := by
  simp only [checkTx, bind_eq_ok] at h
  obtain ⟨⟨response, code⟩, -, h⟩ := h
  split at h
  · simp only [bind_eq_ok] at h
    obtain ⟨_, -, text, -, h⟩ := h
    split at h <;> cases h
  · simp only [bind_eq_ok, ensure_eq_ok, exists_const, Except.ok.injEq] at h
    obtain ⟨_, -, hreal, rfl⟩ := h
    exact hreal

lemma verdict_outcome {vault : String} {message : Json} {input : Option String} (result : Except String Completed)
    (hplain : Plain (.answered (.node (.broadcastSync vault message input)) result)) :
    Outcome (do
      let result ← runCommand result
      checkTx result.document) ((verdict result).apply [.unknown]) := by
  cases result with
  | error name => exact .ambiguous rfl
  | ok result =>
    by_cases hcode : result.returncode = 0
    · simp only [runCommand, verdict, hcode, ne_eq, not_true_eq_false, if_false, ok_bind]
      cases hcheck : checkTx result.document with
      | ok hash => exact .accepted (checkTx_truthy hcheck)
      | error e =>
        by_cases he : e.deterministic = true
        · simp only [he, if_true]
          exact .rejected
        · simp only [he]
          exact .ambiguous (Bool.not_eq_true _ ▸ he)
    · have htext : isTransientText result.detail = true := hplain.resolve_left hcode
      simp only [runCommand, verdict, hcode, htext, ne_eq, not_false_eq_true, if_true]
      exact .ambiguous rfl

lemma rejected_of_not_plain {vault : String} {message : Json} {input : Option String}
    {result : Except String Completed}
    (h : ¬ Plain (.answered (.node (.broadcastSync vault message input)) result)) :
    ∃ e, (do
      let result ← runCommand result
      checkTx result.document) = .error e := by
  cases result with
  | error name => exact absurd trivial h
  | ok result =>
    obtain ⟨hcode, htext⟩ := not_or.mp h
    refine ⟨.commandRejected result.detail, ?_⟩
    simp only [runCommand, hcode, htext, ne_eq, not_false_eq_true, if_true]
    rfl

lemma verdict_ne_start (result : Except String Completed) : verdict result ≠ .start := by
  rcases result with name | result
  · nofun
  · intro h
    simp only [verdict] at h
    split at h
    · cases h
    · split at h
      · cases h
      · split at h <;> cases h

lemma sighting_ne_start (hash : Json) (found : Option FinalTx) : sighting hash found ≠ .start := by
  cases found <;> nofun

lemma credential_quiet : Quiet reading credential := by
  simp only [credential, request, Script.bind_eq, Script.ask_bind]
  apply quiet_request rfl fun _ => rfl
  intro input
  cases input with
  | ok input => exact quiet_ret input
  | error name => exact quiet_raise _

lemma preflight_quiet (vault : String) (message : Json) : Quiet reading (preflight vault message) := by
  intro s l open_ hl hfile
  simp only [preflight, request, Script.bind_eq, Script.ask_bind]
  refine wp_bind (wp_mono ?_ (credential_quiet s l open_ hl hfile))
  rintro (e | input) s₁ l₁ ⟨rfl, hl₁⟩
  · exact wp_raise ⟨rfl, hl₁⟩
  · apply call_idle hl₁ hfile rfl fun _ => rfl
    intro result l₂ hl₂
    cases runCommand result with
    | ok result => exact wp_ret ⟨rfl, hl₂⟩
    | error e => exact wp_raise ⟨rfl, hl₂⟩

lemma broadcast_broadcasts (vault : String) (message : Json) :
    Broadcasts reading (broadcast vault message) := by
  intro s l hl hmark
  simp only [broadcast, request, Script.bind_eq, Script.ask_bind]
  refine wp_bind (wp_mono ?_ (credential_quiet s l [] hl .none))
  rintro (e | input) s₁ l₁ ⟨rfl, hl₁⟩
  · exact wp_raise ⟨rfl, _, hl₁, .rejected⟩
  · have hstarted : Shows reading (.started (.node (.broadcastSync vault message input)) :: l₁) [.unknown] :=
      hl₁.start rfl
    have hanswered : ∀ result : Except String Completed, ∃ open_, Shows reading
        (.answered (.node (.broadcastSync vault message input)) result ::
          .started (.node (.broadcastSync vault message input)) :: l₁) open_ ∧
        Outcome (do
          let result ← runCommand result
          checkTx result.document) open_ := by
      intro result
      by_cases hplain : Plain (.answered (.node (.broadcastSync vault message input)) result)
      · refine ⟨_, ?_, verdict_outcome result hplain⟩
        apply hstarted.event
        exact verdict_ne_start result
      · -- the keeper takes the failure for a rejection, and the run is no longer plain
        obtain ⟨e, he⟩ := rejected_of_not_plain hplain
        rw [he]
        exact ⟨[], Shows.unclear hplain, .rejected⟩
    apply wp_call (hstarted.fileSafe (.unknown hmark))
    · intro result
      obtain ⟨open_, hl₂, houtcome⟩ := hanswered result
      exact hl₂.fileSafe (houtcome.covers hmark)
    · intro result
      obtain ⟨open_, hl₂, houtcome⟩ := hanswered result
      cases hread : (do
          let result ← runCommand result
          checkTx result.document : Py Json) with
      | error e =>
        rw [hread] at houtcome
        exact wp_raise ⟨rfl, open_, hl₂, houtcome⟩
      | ok hash =>
        rw [hread] at houtcome
        exact wp_ret ⟨rfl, open_, hl₂, houtcome⟩

lemma sighting_keep (text : String) (found : Option FinalTx) : ∃ keep : Attempt Json → Bool,
    (∀ open_, (sighting (.str text) found).apply open_ = open_.filter keep) ∧
    (found ≠ none → keep (.known (.str text)) = false) := by
  cases found with
  | none =>
    refine ⟨fun _ => true, fun open_ => ?_, fun h => absurd rfl h⟩
    cases open_ <;> simp [sighting, Move.apply]
  | some found =>
    refine ⟨fun attempt => !attempt.observed (sameHash (.str text)), fun open_ => ?_, fun _ => ?_⟩
    · cases open_ <;> rfl
    · simp [Attempt.observed, sameHash, Json.lower, Json.text]

lemma recheck_found {hash : Json} {found : Option FinalTx} {seen : Observation}
    (h : recheck hash found = .ok (some seen)) : found ≠ none := by
  rintro rfl
  cases h

lemma query_watches {α : Type} {c : Command} {text : String} (lookup : Reply c → Option FinalTx)
    {k : Reply c → Step Reply α} {post : Except PyError α → Store → Log Reply → Prop}
    (hstart : reading.move (.started (.node c)) = .idle)
    (hanswer : ∀ reply : Reply c, reading.move (.answered (.node c) reply) = sighting (.str text) (lookup reply))
    (hl : Shows reading l open_) (hfile : Covers s.file open_)
    (h : ∀ reply l' keep, Shows reading l' (open_.filter keep) →
      (lookup reply ≠ none → keep (.known (.str text)) = false) → Ends reading (k reply) post s l') :
    Ends reading (Script.call (Call.node c) k) post s l := by
  have hstarted := hl.idle hstart
  have hanswered : ∀ reply : Reply c, ∃ keep : Attempt Json → Bool,
      Shows reading (.answered (.node c) reply :: .started (.node c) :: l) (open_.filter keep) ∧
      (lookup reply ≠ none → keep (.known (.str text)) = false) := by
    intro reply
    obtain ⟨keep, hkeep, hfound⟩ := sighting_keep text (lookup reply)
    refine ⟨keep, ?_, hfound⟩
    rw [← hkeep, ← hanswer]
    apply hstarted.event
    rw [hanswer]
    exact sighting_ne_start _ _
  apply wp_call (hstarted.fileSafe hfile)
  · intro reply
    obtain ⟨keep, hl', -⟩ := hanswered reply
    exact hl'.fileSafe (hfile.filter keep)
  · intro reply
    obtain ⟨keep, hl', hfound⟩ := hanswered reply
    exact h reply _ keep hl' hfound

lemma look_watches : Watches reading look := by
  intro hash s l open_ hl hfile
  simp only [look, queryFinalTx, request, Script.bind_eq, Script.bind_assoc]
  cases hash with
  | str text =>
    simp only [Script.ofExcept, Script.ret_bind, Script.ask_bind]
    apply query_watches (lcdLookup (.str text)) rfl (fun _ => rfl) hl hfile
    intro lcd l₁ keep hl₁ hseen
    cases hlcd : lcdLookup (.str text) lcd with
    | some found =>
      simp only [Script.ret_bind]
      have hkeep := hseen (by rw [hlcd]; nofun)
      cases recheck (.str text) (some found) with
      | error e => exact wp_raise ⟨rfl, keep, hl₁, nofun⟩
      | ok seen => exact wp_ret ⟨rfl, keep, hl₁, fun _ _ => hkeep⟩
    | none =>
      simp only [Script.bind]
      apply query_watches (fun reply => (rpcLookup (.str text) reply).toOption.join) rfl (fun _ => rfl)
        hl₁ (hfile.filter keep)
      intro rpc l₂ keep' hl₂ hseen'
      rw [List.filter_filter] at hl₂
      cases hrpc : rpcLookup (.str text) rpc with
      | error e => exact wp_raise ⟨rfl, _, hl₂, nofun⟩
      | ok found =>
        simp only [Script.ret_bind]
        cases hrecheck : recheck (.str text) found with
        | error e => exact wp_raise ⟨rfl, _, hl₂, nofun⟩
        | ok seen =>
          refine wp_ret ⟨rfl, _, hl₂, ?_⟩
          rintro found' hfound'
          obtain rfl : seen = some found' := Except.ok.inj hfound'
          have hfound := recheck_found hrecheck
          rw [hseen' (by rw [hrpc]; exact hfound)]
          rfl
  | _ => exact wp_raise ⟨rfl, fun _ => true, by simpa using hl, nofun⟩

lemma confirmed_quiet (args : Args) (height : ℤ) : Quiet reading (confirmed args height) := by
  by_cases h : args.confirmationBlocks = 0
  · simp only [confirmed, h, ne_eq, not_true_eq_false, if_false]
    exact quiet_ret true
  · simp only [confirmed, h, ne_eq, not_false_eq_true, if_true, request, Script.bind_eq, Script.ask_bind]
    apply quiet_request rfl fun _ => rfl
    intro status
    cases latestHeight status with
    | ok latest => exact quiet_ret _
    | error e => exact quiet_raise e

lemma runOnce_ends {args : Args} {now : ℤ} {rounds : ℕ} (hs : Safe reading s l) :
    Ends reading (runOnce args now rounds) (fun _ => Safe reading) s l := by
  have hpoll : ∀ s l, Safe reading s l → s.memory.pendingHash.truthy = true →
      Ends reading (pollPending args rounds) (fun _ => Safe reading) s l :=
    fun s l hs hhash => pollRounds_ends look_watches (confirmed_quiet args) rounds hs hhash
  apply guarded_ends hpoll _ hs
  intro s l hl hhash
  simp only [request, Script.bind_eq, Script.ask_bind]
  apply call_idle hl .none rfl fun _ => rfl
  intro reply l₁ hl₁
  have hnone : Safe reading s l₁ := hl₁.safe .none .none
  cases smartQuery reply with
  | error e => exact wp_raise hnone
  | ok plan =>
    simp only [Script.ofExcept, Script.ret_bind]
    cases field plan "should_rebalance" with
    | error e => exact wp_raise hnone
    | ok should =>
      simp only [Script.ret_bind]
      by_cases hshould : should.truthy = true
      · simp only [hshould, Bool.not_true, Bool.false_eq_true, if_false]
        cases buildRebalance plan (now + args.deadlineSeconds) with
        | error e => exact wp_raise hnone
        | ok built =>
          simp only [Script.ret_bind]
          cases built with
          | none => exact wp_raise hnone
          | some message =>
            simp only [orError, Script.ret_bind]
            cases args.planFingerprint plan message with
            | error e => exact wp_raise hnone
            | ok fingerprint =>
              simp only [Script.ret_bind]
              split
              · exact wp_ret hnone
              · split
                · exact wp_ret hnone
                · exact trade_ends (preflight_quiet args.vault message) (broadcast_broadcasts args.vault message)
                    hpoll hl₁ hhash
      · simp only [hshould, Bool.not_false, if_true]
        refine wp_bind (wp_mono ?_ (standDown_ends hl₁))
        rintro (e | u) s₁ l₂ hs₁
        · exact wp_raise hs₁
        · cases field plan "price_deviation_bps" with
          | error e => exact wp_raise hs₁
          | ok deviation => exact wp_ret hs₁

inductive Pass : Step Reply Unit → Prop
  | runOnce (args : Args) (now : ℤ) (rounds : ℕ) : Pass (runOnce args now rounds)

lemma pass_kept : Kept (fun _ _ => False) (FileSafe reading) restart Fresh Pass (Safe reading) := by
  apply tracker_kept
  rintro _ ⟨args, now, rounds⟩ s l hs
  exact runOnce_ends hs

/-- What the keeper promises of a moment: the file shows the open broadcasts, none was started while another
was open, and no failed command was taken for a rejection. -/
structure Exclusive (s : Store) (l : Log Reply) : Prop where
  covers : Covers s.file (reading.openBroadcasts l)
  alone : ∀ before after vault message input,
    l = after ++ .started (.node (.broadcastSync vault message input)) :: before →
      reading.openBroadcasts before = []
  ambiguous : ∀ vault message input result e, .answered (.node (.broadcastSync vault message input)) result ∈ l →
    runCommand result = .error e → e.deterministic = false

/-- The promise holds as long as every broadcast command that fails tells a temporary failure, and no longer. -/
theorem exclusive_iff_plain (h : Moment (fun _ _ => False) restart Fresh Pass s l) :
    Exclusive s l ↔ ∀ e ∈ l, Plain e := by
  constructor
  · intro hexcl
    rintro (c | ⟨c, a⟩) he
    · trivial
    · by_contra hplain
      rcases c with _ | c
      · exact hplain trivial
      · cases c with
        | broadcastSync vault message input =>
          rcases a with name | result
          · exact hplain trivial
          · obtain ⟨hcode, htext⟩ := not_or.mp hplain
            have hrejected : runCommand (.ok result) = .error (.commandRejected result.detail) := by
              simp [runCommand, hcode, htext]
            have hdet := hexcl.ambiguous vault message input _ _ he hrejected
            cases hdet
        | _ => exact hplain trivial
  · intro hplain
    obtain ⟨hfile, hexcl⟩ := (h.invariant pass_kept).exclusive hplain
    refine ⟨hfile, ?_, ?_⟩
    · intro before after vault message input hsplit
      exact hexcl before after _ hsplit rfl
    · intro vault message input result e hmem herror
      rcases result with name | result
      · cases herror
        rfl
      · have hread := hplain _ hmem
        by_cases hcode : result.returncode = 0
        · simp [runCommand, hcode] at herror
        · have htext : isTransientText result.detail = true := hread.resolve_left hcode
          simp only [runCommand, hcode, htext, ne_eq, not_false_eq_true, if_true, Except.error.injEq] at herror
          subst herror
          rfl

def priceFingerprint (plan : Json) (_ : Json) : Py String := do
  let price ← field plan "price_deviation_bps"
  price.text

def liveArgs : Args := ⟨"vault", 120, 2, true, priceFingerprint⟩

def page (price : String) : Json :=
  .obj [("data", .obj [("should_rebalance", .bool true), ("price_deviation_bps", .str price)])]

def lost : Completed := ⟨1, "", "Error: post failed: unexpected EOF", none⟩

def done : Completed := ⟨0, "", "", none⟩

lemma runCommand_lost : runCommand (.ok lost) = .error (.commandRejected lost.detail) := by
  have htext : isTransientText lost.detail = false := by decide +kernel
  have hcode : lost.returncode ≠ 0 := by decide
  simp [runCommand, htext, hcode]

def refused : Completed := ⟨1, "", "Error: post failed: timed out", none⟩

lemma refused_transient : isTransientText refused.detail = true := by decide +kernel

lemma runCommand_refused : runCommand (.ok refused) = .error (.transport refused.detail) := by
  have hcode : refused.returncode ≠ 0 := by decide
  simp [runCommand, refused_transient, hcode]

def syncMessage : Json := .obj [("sync_reference", .obj [])]

def exchange (c : Command) (a : Reply c) (l : Log Reply) : Log Reply :=
  .answered (.node c) a :: .started (.node c) :: l

def saving (l : Log Reply) : Log Reply := .answered .save .saved :: .started .save :: l

def planned (price : String) : Log Reply → Log Reply :=
  exchange (.smartQuery "vault" (.obj [("rebalance_plan", .obj [])])) (.ok (page price))

def prepared (l : Log Reply) : Log Reply :=
  exchange .credential (.ok none) (saving (exchange (.generateOnly "vault" syncMessage none) (.ok done)
    (exchange .credential (.ok none) l)))

def send : Call Command := .node (.broadcastSync "vault" syncMessage none)

def firstPass : Log Reply :=
  saving (exchange (.broadcastSync "vault" syncMessage none) (.ok lost) (prepared (planned "150" [])))

def suppressed (price : String) : TxTracker := ⟨.null, none, some price, false⟩

def marked (price : String) : TxTracker := ⟨.null, some price, none, true⟩

def liveTrade (price : String) : Step Reply Unit :=
  trade price (preflight "vault" syncMessage) (broadcast "vault" syncMessage) (pollPending liveArgs 0)

lemma runOnce_page {price : String} {s₀ s' : Store} {l₀ l' : Log Reply} {r : Option (Except PyError Unit)}
    (hmark : s₀.memory.broadcasting = false) (hhash : s₀.memory.pendingHash = .null)
    (hplan : s₀.memory.suppressedPlan ≠ some price)
    (h : Exec (fun _ _ => False) (liveTrade price) s₀ (planned price l₀) s' l' r) :
    Exec (fun _ _ => False) (runOnce liveArgs 0 0) s₀ l₀ s' l' r := by
  simp only [runOnce, guarded, Script.bind_eq, Script.read_bind, request, Script.ask_bind]
  apply Exec.update
  simp only [hmark, hhash, Bool.false_and, Json.truthy, Bool.false_eq_true, if_false]
  apply Exec.call (a := .ok (page price))
  simp [smartQuery, page, field, orError, Script.ofExcept, buildRebalance, Json.get, Json.getD,
    List.lookup, liveArgs, priceFingerprint, Json.text, hplan]
  exact h

/-- A trade whose broadcast command fails comes down to what the keeper makes of the failure. -/
lemma trade_failed {price : String} {result : Completed} {e : PyError} {s' : Store} {l' : Log Reply}
    {r : Option (Except PyError Unit)} (hrun : runCommand (.ok result) = .error e)
    (h : Exec (fun _ _ => False) (do
        let hash ← unmark price e
        setTracker fun t => { t with pendingHash := hash, broadcasting := false }
        save
        let _ ← pollPending liveArgs 0
        .ret () : Step Reply Unit) ⟨marked price, marked price⟩
      (exchange (.broadcastSync "vault" syncMessage none) (.ok result) (prepared (planned price []))) s' l' r) :
    Exec (fun _ _ => False) (liveTrade price) ⟨.fresh, .fresh⟩ (planned price []) s' l' r := by
  simp only [liveTrade, trade, submit, preflight, broadcast, credential, request, save, setTracker, Script.bind_eq,
    Script.ask_bind, Script.modify_bind]
  apply Exec.call (a := Except.ok none)
  apply Exec.call (a := Except.ok done)
  apply Exec.update
  apply Exec.call (a := SaveOutcome.saved)
  apply Exec.update
  apply Exec.call (a := Except.ok none)
  apply Exec.call (a := Except.ok result)
  simp only [hrun]
  exact h

lemma trade_lost (price : String) : Exec (fun _ _ => False) (liveTrade price) ⟨.fresh, .fresh⟩ (planned price [])
    ⟨suppressed price, suppressed price⟩
    (saving (exchange (.broadcastSync "vault" syncMessage none) (.ok lost) (prepared (planned price []))))
    (some (.error (.commandRejected lost.detail))) := by
  refine trade_failed runCommand_lost ?_
  apply Exec.update
  apply Exec.call (a := SaveOutcome.saved)
  apply Exec.update
  apply Exec.raise

lemma trade_refused (price : String) : Exec (fun _ _ => False) (liveTrade price) ⟨.fresh, .fresh⟩ (planned price [])
    ⟨marked price, marked price⟩
    (exchange (.broadcastSync "vault" syncMessage none) (.ok refused) (prepared (planned price [])))
    (some (.error (.transport refused.detail))) :=
  trade_failed runCommand_refused .raise

lemma runOnce_marked {price : String} (l : Log Reply) : Exec (fun _ _ => False) (runOnce liveArgs 0 0)
    ⟨marked price, marked price⟩ l ⟨marked price, marked price⟩ l (some (.ok ())) := by
  simp only [runOnce, guarded, Script.bind_eq, Script.read_bind]
  exact .update .ret

lemma trade_started (price : String) (s₀ : Store) (l₀ : Log Reply) : ∃ s',
    Exec (fun _ _ => False) (liveTrade price) s₀ l₀ s' (.started send :: prepared l₀) none := by
  refine ⟨_, .call (a := Except.ok none) (.call (a := Except.ok done) (.update
    (.call (a := SaveOutcome.saved) (.update (.call (a := Except.ok none) .started)))))⟩

/-- A broadcast command that timed out: the marker stays, also over a restart and another pass. -/
theorem exclusive_iff_plain_started : ∃ l,
    Run (fun _ _ => False) restart Fresh Pass ⟨marked "150", marked "150"⟩ l ∧
    .answered (.node (.broadcastSync "vault" syncMessage none)) (.ok refused) ∈ l ∧
    reading.openBroadcasts l = [.unknown] ∧ Exclusive ⟨marked "150", marked "150"⟩ l := by
  have hfirst : Exec (fun _ _ => False) (runOnce liveArgs 0 0) ⟨.fresh, .fresh⟩ [] ⟨marked "150", marked "150"⟩ _
      (some (.error (.transport refused.detail))) := runOnce_page rfl rfl (by nofun) (trade_refused "150")
  have hrun : Run (fun _ _ => False) restart Fresh Pass ⟨marked "150", marked "150"⟩ _ :=
    .finished (.crashed (.finished (.start rfl) (.runOnce liveArgs 0 0) hfirst) (.runOnce liveArgs 0 0) .stop)
      (.runOnce liveArgs 0 0) (runOnce_marked _)
  refine ⟨_, hrun, List.mem_cons_self, rfl, (exclusive_iff_plain (.between hrun)).mpr ?_⟩
  simp [prepared, planned, exchange, saving, Plain, refused_transient]

/-- The first broadcast may be on chain when the second one starts. -/
theorem not_exclusive : ∃ s,
    Moment (fun _ _ => False) restart Fresh Pass s (.started send :: prepared (planned "160" firstPass)) ∧
    ¬ Exclusive s (.started send :: prepared (planned "160" firstPass)) := by
  have hfirst : Exec (fun _ _ => False) (runOnce liveArgs 0 0) ⟨.fresh, .fresh⟩ []
      ⟨suppressed "150", suppressed "150"⟩ firstPass (some (.error (.commandRejected lost.detail))) :=
    runOnce_page rfl rfl (by nofun) (trade_lost "150")
  have hrun : Run (fun _ _ => False) restart Fresh Pass ⟨suppressed "150", suppressed "150"⟩ firstPass :=
    .finished (.start rfl) (.runOnce liveArgs 0 0) hfirst
  obtain ⟨s, hsecond⟩ := trade_started "160" ⟨suppressed "150", suppressed "150"⟩ (planned "160" firstPass)
  refine ⟨s, .within hrun (.runOnce liveArgs 0 0) (runOnce_page rfl rfl (by decide) hsecond), ?_⟩
  intro hexcl
  have hnone := hexcl.alone _ [] _ _ _ rfl
  cases hnone

end Cl8yDexBots.Services.RebalancerKeeperSafety
