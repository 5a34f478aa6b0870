import Cl8yDexBots.Services.SwapKeeper
import Cl8yDexBots.Services.TrackerSafety

/-! The swap keeper never starts a broadcast while an earlier one is open. -/

namespace Cl8yDexBots.Services.SwapKeeperSafety

open Foundation.Checked Foundation.Durable Foundation.Attempts Values Tracker TrackerSafety SwapKeeper

/-- What the node's reply to a broadcast says: accepted under a hash, rejected for good, or neither. -/
def verdict : Except CommandError Json → Move Json
  | .ok response => match checkTx response with
    | .ok hash => .accept hash
    | .error e => if e.deterministic then .reject else .idle
  | .error _ => .idle

def sighting (hash : Json) : Except CommandError Json → Move Json
  | .ok result => match SwapKeeper.observe hash result with
    | .ok _ => .observe (sameHash hash)
    | .error _ => .idle
  | .error _ => .idle

def reading : Reading Reply where
  move
    | .started (.node (.broadcast _)) => .start
    | .answered (.node (.broadcast _)) reply => verdict reply
    | .answered (.node (.queryTx hash)) result => sighting hash result
    | _ => .idle
  clear _ := True
  save_started := rfl
  save_answered _ := rfl

variable {s : Store} {l : Log Reply} {open_ : List (Attempt Json)}

lemma toPy_deterministic (e : CommandError) : e.toPy.deterministic = false := by
  cases e <;> rfl

lemma checkTx_truthy {response hash : Json} (h : checkTx response = .ok hash) : hash.truthy = true := by
  simp only [checkTx, bind_eq_ok] at h
  obtain ⟨tx, -, _, -, _, -, code, -, h⟩ := h
  split at h
  · simp only [bind_eq_ok] at h
    obtain ⟨_, -, _, -, text, -, h⟩ := h
    split at h <;> cases h
  · simp only [bind_eq_ok, ensure_eq_ok, exists_const, Except.ok.injEq] at h
    obtain ⟨_, -, hreal, rfl⟩ := h
    exact hreal

lemma verdict_outcome (reply : Except CommandError Json) :
    Outcome (match reply with
      | .ok response => checkTx response
      | .error e => .error e.toPy) ((verdict reply).apply [.unknown]) := by
  cases reply with
  | error e => exact .ambiguous (toPy_deterministic e)
  | ok response =>
    cases hcheck : checkTx response with
    | ok hash =>
      simp only [verdict, hcheck]
      exact .accepted (checkTx_truthy hcheck)
    | error e =>
      by_cases he : e.deterministic = true
      · simp only [verdict, hcheck, he, if_true]
        exact .rejected
      · simp only [verdict, hcheck, he]
        exact .ambiguous (Bool.not_eq_true _ ▸ he)

lemma verdict_ne_start (reply : Except CommandError Json) : verdict reply ≠ .start := by
  rcases reply with e | response
  · nofun
  · intro h
    simp only [verdict] at h
    split at h
    · cases h
    · split at h <;> cases h

lemma broadcast_broadcasts (vault : String) (message : Json) :
    Broadcasts reading (broadcast vault message) := by
  intro s l hl hmark
  simp only [broadcast, request, Script.bind_eq, Script.ask_bind]
  apply call_idle hl .none rfl fun _ => rfl
  intro signed l₁ hl₁
  cases signed with
  | error e => exact wp_raise ⟨rfl, _, hl₁, .rejected⟩
  | ok signed =>
    have hstarted : Shows reading (.started (.node (.broadcast signed)) :: l₁) [.unknown] := hl₁.start rfl
    have hanswered : ∀ reply : Except CommandError Json,
        Shows reading (.answered (.node (.broadcast signed)) reply :: .started (.node (.broadcast signed)) :: l₁)
          ((verdict reply).apply [.unknown]) := by
      intro reply
      apply hstarted.event
      exact verdict_ne_start reply
    apply wp_call (hstarted.fileSafe (.unknown hmark))
    · intro reply
      exact (hanswered reply).fileSafe ((verdict_outcome reply).covers hmark)
    · intro reply
      have houtcome := verdict_outcome reply
      cases reply with
      | error e => exact wp_raise ⟨rfl, _, hanswered _, houtcome⟩
      | ok response =>
        dsimp only at houtcome
        simp only [answered, Script.ret_bind]
        cases hcheck : checkTx response with
        | error e =>
          rw [hcheck] at houtcome
          exact wp_raise ⟨rfl, _, hanswered _, houtcome⟩
        | ok hash =>
          rw [hcheck] at houtcome
          exact wp_ret ⟨rfl, _, hanswered _, houtcome⟩

lemma observe_lower {hash result : Json} {found : Observation}
    (h : SwapKeeper.observe hash result = .ok found) : sameHash hash hash = true := by
  simp only [SwapKeeper.observe, bind_eq_ok, ensure_eq_ok, exists_const] at h
  obtain ⟨tx, -, observed, -, -, _, -, height, -, _, -, code, -, -, lowered, -, pending, hpending, -⟩ := h
  simp [sameHash, hpending]

lemma sighting_watches (hash : Json) (result : Except CommandError Json) :
    ∃ keep : Attempt Json → Bool,
      (∀ open_, (sighting hash result).apply open_ = open_.filter keep) ∧
      ∀ found, lookup hash result = .ok (some found) → keep (.known hash) = false := by
  have hidle : ∀ open_ : List (Attempt Json), Move.idle.apply open_ = open_.filter fun _ => true := by
    intro open_
    cases open_ <;> simp [Move.apply]
  cases result with
  | error e => exact ⟨fun _ => true, hidle, fun found h => by cases e <;> cases h⟩
  | ok result =>
    cases hseen : SwapKeeper.observe hash result with
    | error e =>
      refine ⟨fun _ => true, fun open_ => by simpa only [sighting, hseen] using hidle open_, ?_⟩
      intro found h
      simp only [lookup, hseen] at h
      split at h
      · cases e <;> cases h
      · cases h
    | ok seen =>
      refine ⟨fun attempt => !attempt.observed (sameHash hash), fun open_ => ?_, ?_⟩
      · simp only [sighting, hseen]
        cases open_ <;> rfl
      · intro found _
        simp [Attempt.observed, observe_lower hseen]

lemma sighting_ne_start (hash : Json) (result : Except CommandError Json) : sighting hash result ≠ .start := by
  rcases result with e | result
  · nofun
  · intro h
    simp only [sighting] at h
    split at h <;> cases h

lemma look_watches : Watches reading look := by
  intro hash s l open_ hl hfile
  simp only [look, request, Script.bind_eq, Script.ask_bind]
  have hstarted : Shows reading (.started (.node (.queryTx hash)) :: l) open_ := hl.idle rfl
  have hanswered : ∀ result, ∃ keep : Attempt Json → Bool,
      Shows reading (.answered (.node (.queryTx hash)) result :: .started (.node (.queryTx hash)) :: l)
        (open_.filter keep) ∧
      ∀ found, lookup hash result = .ok (some found) → keep (.known hash) = false := by
    intro result
    obtain ⟨keep, hkeep, hfound⟩ := sighting_watches hash result
    refine ⟨keep, ?_, hfound⟩
    rw [← hkeep]
    exact hstarted.event (sighting_ne_start hash result)
  apply wp_call (hstarted.fileSafe hfile)
  · intro result
    obtain ⟨keep, hl', -⟩ := hanswered result
    exact hl'.fileSafe (hfile.filter keep)
  · intro result
    obtain ⟨keep, hl', hfound⟩ := hanswered result
    cases hlookup : lookup hash result with
    | error e => exact wp_raise ⟨rfl, keep, hl', nofun⟩
    | ok found => exact wp_ret ⟨rfl, keep, hl', fun f hf => hfound f (hlookup.trans hf)⟩

lemma confirmed_quiet (args : Args) (height : ℤ) : Quiet reading (confirmed args height) := by
  by_cases h : args.confirmationBlocks = 0
  · simp only [confirmed, h, ne_eq, not_true_eq_false, if_false]
    exact quiet_ret true
  · simp only [confirmed, h, ne_eq, not_false_eq_true, if_true, request, Script.bind_eq, Script.ask_bind]
    apply quiet_request rfl fun _ => rfl
    intro latest
    cases latest with
    | ok latest => exact quiet_ret _
    | error e => exact quiet_raise e.toPy

lemma preflight_quiet (vault : String) (message : Json) : Quiet reading (preflight vault message) := by
  simp only [preflight, request, Script.bind_eq, Script.ask_bind]
  apply quiet_request rfl fun _ => rfl
  intro checked
  cases checked with
  | ok checked => exact quiet_ret ()
  | error e => exact quiet_raise e.toPy

lemma pollPending_ends {args : Args} (rounds : ℕ) (hs : Safe reading s l)
    (hhash : s.memory.pendingHash.truthy = true) :
    Ends reading (pollPending args rounds) (fun _ => Safe reading) s l :=
  pollRounds_ends look_watches (confirmed_quiet args) rounds hs hhash

lemma keepVault_ends {args : Args} {protocol : VaultProtocol} {vault : String} {now : ℤ} {rounds : ℕ}
    (hs : Safe reading s l) :
    Ends reading (keepVault args protocol vault now rounds) (fun _ => Safe reading) s l := by
  have hpoll : ∀ s l, Safe reading s l → s.memory.pendingHash.truthy = true →
      Ends reading (pollPending args rounds) (fun _ => Safe reading) s l :=
    fun s l hs hhash => pollPending_ends rounds hs hhash
  apply guarded_ends hpoll _ hs
  intro s l hl hhash
  simp only [request, Script.bind_eq, Script.ask_bind]
  apply call_idle hl .none rfl fun _ => rfl
  intro plan l₁ hl₁
  have hnone : Safe reading s l₁ := hl₁.safe .none .none
  rcases plan with (detail | name) | plan
  · exact wp_ret hnone
  · exact wp_raise hnone
  · simp only
    cases protocol.buildMessage plan (now + args.deadlineSeconds) with
    | error e => exact wp_raise hnone
    | ok message =>
      cases message with
      | none =>
        simp only [Script.ofExcept, Script.ret_bind]
        refine wp_bind (wp_mono ?_ (standDown_ends hl₁))
        rintro (e | u) s₁ l₂ hs₁
        · exact wp_raise hs₁
        · cases protocol.noopMessage plan with
          | error e => exact wp_raise hs₁
          | ok text => exact wp_ret hs₁
      | some message =>
        simp only [Script.ofExcept, Script.ret_bind]
        cases protocol.fingerprint plan message vault with
        | error e => exact wp_raise hnone
        | ok fingerprint =>
          dsimp only [Script.ret_bind]
          split
          · exact wp_ret hnone
          · split
            · exact wp_ret hnone
            · exact trade_ends (preflight_quiet vault message) (broadcast_broadcasts vault message) hpoll hl₁ hhash

inductive Pass : Step Reply Unit → Prop
  | keepVault (args : Args) (protocol : VaultProtocol) (vault : String) (now : ℤ) (rounds : ℕ) :
      Pass (keepVault args protocol vault now rounds)

lemma pass_kept : Kept (fun _ _ => False) (FileSafe reading) restart Fresh Pass (Safe reading) := by
  apply tracker_kept
  rintro _ ⟨args, protocol, vault, now, rounds⟩ s l hs
  exact keepVault_ends hs

/-- At every moment of every run the file shows the open broadcasts, at most one, and each broadcast was
started when none was open. -/
theorem broadcasts_exclusive (h : Moment (fun _ _ => False) restart Fresh Pass s l) :
    Covers s.file (reading.openBroadcasts l) ∧
    ∀ before after signed, l = after ++ .started (.node (.broadcast signed)) :: before →
      reading.openBroadcasts before = [] := by
  obtain ⟨hfile, hexcl⟩ := (h.invariant pass_kept).exclusive fun _ _ => trivial
  refine ⟨hfile, ?_⟩
  intro before after signed hsplit
  exact hexcl before after _ hsplit rfl

def alwaysTrade : VaultProtocol where
  queryMsg := .null
  buildMessage _ _ := .ok (some .null)
  noopMessage _ := .ok ""
  fingerprint _ _ _ := .ok "plan"

def liveArgs : Args := ⟨120, 2, true⟩

theorem broadcasts_exclusive_crashed : ∃ s l,
    Moment (fun _ _ => False) restart Fresh Pass s (.started (.node (.broadcast "tx")) :: l) ∧
    Covers s.file [.unknown] ∧ reading.openBroadcasts l = [] := by
  have hpass : Pass (keepVault liveArgs alwaysTrade "vault" 0 0) := .keepVault _ _ _ _ _
  have hexec : ∃ s l, Exec (fun _ _ => False) (keepVault liveArgs alwaysTrade "vault" 0 0)
      ⟨.fresh, .fresh⟩ [] s (.started (.node (.broadcast "tx")) :: l) none ∧ reading.openBroadcasts l = [] := by
    refine ⟨_, _, .update (.call (a := .ok .null) (.call (a := .ok .null) (.update
      (.call (a := SaveOutcome.saved) (.update (.call (a := .ok "tx") .started)))))), rfl⟩
  obtain ⟨s, l, hexec, hnone⟩ := hexec
  have hmoment : Moment (fun _ _ => False) restart Fresh Pass s (.started (.node (.broadcast "tx")) :: l) :=
    .within (.start rfl) hpass hexec
  have hopen : reading.openBroadcasts (.started (.node (.broadcast "tx")) :: l) = [.unknown] := by
    simp only [Reading.openBroadcasts] at hnone ⊢
    rw [unresolved, hnone]
    rfl
  obtain ⟨hfile, hstart⟩ := broadcasts_exclusive hmoment
  rw [hopen] at hfile
  exact ⟨s, l, hmoment, hfile, hstart l [] "tx" rfl⟩

end Cl8yDexBots.Services.SwapKeeperSafety
