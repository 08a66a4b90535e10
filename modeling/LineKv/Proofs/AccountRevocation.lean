import Mathlib
import LineKv.Proofs.DispatchChecks
import LineKv.Proofs.AccountChecks
import LineKv.Proofs.InputIntake
import LineKv.Proofs.QueueTurn
import LineKv.Proofs.ConnectionActs
import LineKv.Script.Session

/-!
Capabilities follow the current accounts: a session's capability and administrator checks look its
account up in the snapshot in place at the check, whatever decodes the accounts file, so a removed
or disabled account's guarded commands are refused.
-/

namespace LineKv

/-- A snapshot as a load leaves it: every account filed under its lower-cased name, and no name
filed twice. -/
structure Accounts.Keyed (a : Accounts) : Prop where
  key : ∀ e ∈ a.entries, e.1 = Text.toLower e.2.name
  nodup : (a.entries.map (·.1)).Nodup

namespace Accounts

/-- An enabled account of the snapshot that answers to `name`, ignoring case and surrounding
space. -/
def Answers (a : Accounts) (name : Bytes) (acct : Account) : Prop :=
  acct ∈ a.entries.map (·.2) ∧ Text.toLower acct.name = Text.toLower (Text.trimSpace name) ∧
    acct.disabled = false

def reloaded (a : Accounts) (decode : AccountsDecoder) (hasher : Hasher) (texts : List String) : Accounts :=
  texts.foldl (fun a t => ((load decode hasher "load accounts" t).toOption).getD a) a

theorem reloaded_cons (a : Accounts) (decode : AccountsDecoder) (hasher : Hasher) (t : String)
    (ts : List String) :
    a.reloaded decode hasher (t :: ts) =
      (((load decode hasher "load accounts" t).toOption).getD a).reloaded decode hasher ts := rfl

theorem build_keyed {hasher : Hasher} {d : Option Bytes} {es : List AccountEntry} {a : Accounts}
    (h : build hasher d es = .ok a) : a.Keyed := by
  obtain ⟨ha, rfl⟩ := build_eq_ok_iff.1 h
  refine ⟨fun e he => ?_, ?_⟩
  · -- an entry is filed under its key, the lower-cased trimmed name its account carries
    obtain ⟨x, -, rfl⟩ := List.mem_map.1 he
    rfl
  · simpa [Function.comp_def] using ha.distinct

theorem load_keyed {decode : AccountsDecoder} {hasher : Hasher} {pfx text : String} {a : Accounts}
    (h : load decode hasher pfx text = .ok a) : a.Keyed := by
  unfold load at h
  simp only [bind, Except.bind] at h
  split at h
  · cases h
  · exact build_keyed h

theorem Keyed.reloaded {a : Accounts} (ha : a.Keyed) (decode : AccountsDecoder) (hasher : Hasher)
    (texts : List String) : (a.reloaded decode hasher texts).Keyed := by
  refine foldl_preserves Keyed (fun b t hb => ?_) texts a ha
  cases hp : load decode hasher "load accounts" t with
  | error => exact hb
  | ok a' => exact load_keyed hp

theorem Keyed.lookup_eq_some_iff {a : Accounts} (ha : a.Keyed) {name : Bytes} {acct : Account} :
    a.lookup name = some acct ↔
      acct ∈ a.entries.map (·.2) ∧ Text.toLower acct.name = Text.toLower (Text.trimSpace name) := by
  unfold lookup
  dsimp only
  constructor
  · intro h
    obtain ⟨e, he, rfl⟩ := Option.map_eq_some_iff.1 h
    have hm := List.mem_of_find?_eq_some he
    have hk : e.1 = Text.toLower (Text.trimSpace name) := by simpa using List.find?_some he
    exact ⟨List.mem_map_of_mem hm, (ha.key e hm).symm.trans hk⟩
  · rintro ⟨hm, hk⟩
    obtain ⟨e, he, rfl⟩ := List.mem_map.1 hm
    have he1 : e.1 = Text.toLower (Text.trimSpace name) := (ha.key e he).trans hk
    cases hf : a.entries.find? (·.1 == Text.toLower (Text.trimSpace name)) with
    | none => exact absurd (by simp [he1]) (List.find?_eq_none.1 hf e he)
    | some e' =>
      -- the entry found has the asked key, and keys are filed once
      have he' : e'.1 = e.1 := by simpa [he1] using List.find?_some hf
      rw [List.inj_on_of_nodup_map ha.nodup (List.mem_of_find?_eq_some hf) he he']
      rfl

end Accounts

/-- A runner whose queue replays a transaction, with no keep-alive ahead, runs the next buffered
command on the queue that keeps the rest of the buffer. -/
theorem Runner.step_replays {W : Type} (r : Runner W) (w : W) {c : Pending} {more : List Pending}
    (hs : (r.queue w).state = .running) (hb : (r.queue w).buffer = c :: more)
    (hk : ∀ e ∈ (r.queue w).pending.head?, e.keepAlive = false) :
    r.step false w =
      (.replayed, r.execute c.name c.params (r.setQueue ((r.queue w).replayFrom more) w)) := by
  have hr : (r.queue w).replaying = true := by simp [Queue.replaying, hs, hb]
  unfold Runner.step
  cases hp : (r.queue w).pending with
  | nil => simp [Runner.ordered, hp, hr, hb, Queue.replayFrom]
  | cons e rest =>
    have hke : e.keepAlive = false := hk e (by simp [hp])
    simp [Runner.ordered, hp, hke, hr, hb, Queue.replayFrom]

end LineKv

namespace LineKv.Server

open Command Line Transport

namespace Node

/-- Reload the accounts from each text in turn, checking hashes with the node's own hasher. -/
def reloadAll (s : Node) (decode : AccountsDecoder) (texts : List String) : Node :=
  texts.foldl (fun s t => (s.reloadAccounts (Accounts.load decode s.services.hasher "load accounts") t).2) s

theorem reloadAll_eq (s : Node) {a : Accounts} (hs : s.services.accounts = some a)
    (decode : AccountsDecoder) (texts : List String) :
    s.reloadAll decode texts = { s with services := { s.services with
      accounts := some (a.reloaded decode s.services.hasher texts)
      reloads := s.services.reloads +
        (texts.filter fun t => (Accounts.load decode s.services.hasher "load accounts" t).toBool).length } } := by
  induction texts generalizing s a with
  | nil => simp [reloadAll, Accounts.reloaded, ← hs]
  | cons t ts ih =>
    have hstep : s.reloadAll decode (t :: ts) =
        (s.reloadAccounts (Accounts.load decode s.services.hasher "load accounts") t).2.reloadAll decode ts := rfl
    rw [hstep]
    cases hp : Accounts.load decode s.services.hasher "load accounts" t with
    | error e =>
      have h1 : (s.reloadAccounts (Accounts.load decode s.services.hasher "load accounts") t).2 = s := by
        simp [reloadAccounts, hp]
      rw [h1, ih s hs]
      simp [Accounts.reloaded_cons, hp, Except.toOption, Except.toBool]
    | ok a' =>
      rw [ih _ (a := a') (by simp [reloadAccounts, hp, modifyServices, hs])]
      simp [reloadAccounts, hp, modifyServices, Accounts.reloaded_cons, Except.toOption,
        Except.toBool, Nat.add_assoc, Nat.add_comm 1]

variable {s : Node} {a : Accounts} {id : Bytes} {c : Connection}

/-- With an account store, a registered session's identity is its account as the current
snapshot holds it, and none when that account is gone or disabled. -/
theorem identityNow_eq (hs : s.services.accounts = some a) (hc : s.conn? id = some c)
    (hr : c.session.registered = true) :
    s.identityNow id = ((a.lookup c.session.identity.account).filter (!·.disabled)).map
      fun acct => ⟨acct.name, acct.capabilities, acct.admin⟩ := by
  simp only [identityNow, hc, hr, hs, Bool.not_true, Bool.false_eq_true, if_false]
  cases a.lookup c.session.identity.account with
  | none => rfl
  | some acct => cases hd : acct.disabled <;> simp [Option.filter, hd]

theorem identityNow_any_iff (hs : s.services.accounts = some a) (ha : a.Keyed)
    (hc : s.conn? id = some c) (hr : c.session.registered = true) (p : Identity → Bool) :
    (s.identityNow id).any p = true ↔
      ∃ acct, a.Answers c.session.identity.account acct ∧
        p ⟨acct.name, acct.capabilities, acct.admin⟩ = true := by
  rw [identityNow_eq hs hc hr]
  cases hl : a.lookup c.session.identity.account with
  | none =>
    simp only [Option.filter_none, Option.map_none, Option.any_none, Bool.false_eq_true, false_iff]
    rintro ⟨acct, ⟨hm, hk, -⟩, -⟩
    exact absurd ((ha.lookup_eq_some_iff).2 ⟨hm, hk⟩) (by simp [hl])
  | some acct =>
    obtain ⟨hm, hk⟩ := (ha.lookup_eq_some_iff).1 hl
    constructor
    · intro h
      cases hd : acct.disabled
      · exact ⟨acct, ⟨hm, hk, hd⟩, by simpa [Option.filter, hd] using h⟩
      · simp [Option.filter, hd] at h
    · rintro ⟨acct', ⟨hm', hk', hd'⟩, hp⟩
      -- the answering account is the one lookup found
      have : acct' = acct := Option.some.inj (((ha.lookup_eq_some_iff).2 ⟨hm', hk'⟩).symm.trans hl)
      subst this
      simp [Option.filter, hd', hp]

theorem identityNow_eq_none (hs : s.services.accounts = some a) (ha : a.Keyed)
    (hc : s.conn? id = some c) (hr : c.session.registered = true)
    (hv : ¬∃ acct, a.Answers c.session.identity.account acct) : s.identityNow id = none := by
  cases hi : s.identityNow id with
  | none => rfl
  | some i =>
    have h := (identityNow_any_iff hs ha hc hr fun _ => true).1 (by simp [hi])
    exact absurd (h.imp fun _ h => h.1) hv

theorem identityNow_modifyQueue (s : Node) (id : Bytes) (f : Queue → Queue) :
    (s.modifyQueue id f).identityNow id = s.identityNow id := by
  simp only [identityNow, conn?_modifyQueue]
  cases s.conn? id <;> rfl

/-- The answer to a command `desc` guarded by capability `f`, with parameters `ps`, from a session
that fails the capability check: one 502 reply when it has too few parameters, since that check
comes first, and one 503 reply otherwise. -/
def refusal (s : Node) (id : Bytes) (desc : Descriptor Builtin) (f : UInt8) (ps : List Bytes) :
    Dispatcher.Verdict × Node :=
  if ((desc.normalize ps).length : Int) < desc.minParams then
    ((.invalid, some (.missingParams desc.name desc.minParams (desc.normalize ps).length)),
      s.reply id Code.needMoreParams [desc.name] (Bytes.ofString "Not enough parameters"))
  else
    ((.invalid, some (.denied desc.name f)),
      s.reply id Code.noPrivileges [desc.name]
        (Bytes.ofString "Permission denied: requires capability " ++
          Text.quote (Dispatcher.capabilityText f)))

/-- Without an identity every capability check fails, so a guarded command is refused before its
registration check and its handler. -/
theorem execute_without_identity (hn : s.identityNow id = none) {n : Bytes} {ps : List Bytes}
    {desc : Descriptor Builtin} {f : UInt8} (hl : s.dispatcher.lookup (Text.toUpper n) = some desc)
    (hf : desc.permission = some f) :
    s.dispatcher.execute (host id) n ps s = s.refusal id desc f ps := by
  unfold refusal
  split
  · exact Dispatcher.execute_short s.dispatcher (host id) n ps s hl ‹_›
  · have hp : (host id).permitted f s = false := by simp [host, hostWith, permitted, hn]
    exact Dispatcher.execute_denied s.dispatcher (host id) n ps s hl (Int.not_lt.1 ‹_›) hf hp

/-- A buffered command replayed for a session without identity is refused as one sent now: the
buffer keeps its name and parameters only, and the capability check is made at the replay. -/
theorem step_replay_without_identity (hn : s.identityNow id = none) {p : Pending}
    {more : List Pending} (hs : (s.queueOf id).state = .running)
    (hb : (s.queueOf id).buffer = p :: more)
    (hk : ∀ e ∈ (s.queueOf id).pending.head?, e.keepAlive = false) {desc : Descriptor Builtin}
    {f : UInt8} (hl : s.dispatcher.lookup (Text.toUpper p.name) = some desc)
    (hf : desc.permission = some f) :
    (runner id).step false s =
      (.replayed, ((s.modifyQueue id fun _ => (s.queueOf id).replayFrom more).refusal id desc f
        p.params).2) := by
  rw [Runner.step_replays (runner id) s hs hb hk]
  have hn' : (s.modifyQueue id fun _ => (s.queueOf id).replayFrom more).identityNow id = none := by
    rw [identityNow_modifyQueue]
    exact hn
  simp only [runner, Node.execute]
  rw [execute_without_identity hn' hl hf]

/-- Capabilities follow the reloads. From a node whose store holds a built snapshot, reload the
accounts from each text in turn, with any decoder of the file's format: the node then differs
only in its snapshot, which is the last one that read with the node's own hasher, and in its reload
count, which counts the texts that read. For every registered session of it, the capability and administrator checks hold
exactly when an enabled account of the current snapshot answers to the session's account and has
the capability (the administrator flag). When none answers, every command guarded by a capability
is refused, as sent now and as replayed from a transaction buffered before, and its handler does
not run. -/
theorem capabilities_follow_reloads (decode : AccountsDecoder) (s₀ : Node) (a₀ : Accounts)
    (h₀ : ∃ hasher d es, Accounts.build hasher d es = .ok a₀) (hs₀ : s₀.services.accounts = some a₀)
    (texts : List String) :
    let s := s₀.reloadAll decode texts
    let a := a₀.reloaded decode s₀.services.hasher texts
    s = { s₀ with services := { s₀.services with
      accounts := some a
      reloads := s₀.services.reloads +
        (texts.filter fun t => (Accounts.load decode s₀.services.hasher "load accounts" t).toBool).length } } ∧
    ∀ id c, s.conn? id = some c → c.session.registered = true →
      (∀ f, (s.identityNow id).any (·.has f) = true ↔
        ∃ acct, a.Answers c.session.identity.account acct ∧ acct.capabilities.contains f = true) ∧
      ((s.identityNow id).any (·.admin) = true ↔
        ∃ acct, a.Answers c.session.identity.account acct ∧ acct.admin = true) ∧
      ((¬∃ acct, a.Answers c.session.identity.account acct) →
        ∀ (desc : Descriptor Builtin) f, desc.permission = some f →
          (∀ n ps, s.dispatcher.lookup (Text.toUpper n) = some desc →
            s.dispatcher.execute (host id) n ps s = s.refusal id desc f ps) ∧
          ∀ p more, (s.queueOf id).state = .running → (s.queueOf id).buffer = p :: more →
            (∀ e ∈ (s.queueOf id).pending.head?, e.keepAlive = false) →
            s.dispatcher.lookup (Text.toUpper p.name) = some desc →
            (runner id).step false s =
              (.replayed, ((s.modifyQueue id fun _ => (s.queueOf id).replayFrom more).refusal id
                desc f p.params).2)) := by
  dsimp only
  obtain ⟨hasher, d, es, hb⟩ := h₀
  have ha : (a₀.reloaded decode s₀.services.hasher texts).Keyed :=
    (Accounts.build_keyed hb).reloaded decode s₀.services.hasher texts
  have hs : (s₀.reloadAll decode texts).services.accounts =
      some (a₀.reloaded decode s₀.services.hasher texts) := by
    rw [reloadAll_eq s₀ hs₀]
  refine ⟨reloadAll_eq s₀ hs₀ decode texts, fun id c hc hr => ⟨fun f => ?_, ?_, fun hv desc f hf => ?_⟩⟩
  · exact identityNow_any_iff hs ha hc hr (·.has f)
  · exact identityNow_any_iff hs ha hc hr (·.admin)
  · have hn := identityNow_eq_none hs ha hc hr hv
    exact ⟨fun n ps hl => execute_without_identity hn hl hf,
      fun p more hst hbuf hk hl => step_replay_without_identity hn hst hbuf hk hl hf⟩

/-- The two accounts of the revocation scenario, both with the password hash of `pw`: `alice`, who
may read, write and publish, and `bob`, who holds the default read capability. -/
def aliceAndBob : List AccountEntry :=
  [⟨Bytes.ofString "alice", Bytes.ofString "$2a$04$eATNYyg1m5cG0Qoa5IH9cOov198YwsANpRz8ShqO7.zWGrm3mOrNW",
      some (Bytes.ofString "rwp"), false, false⟩,
    ⟨Bytes.ofString "bob", Bytes.ofString "$2a$04$eATNYyg1m5cG0Qoa5IH9cOov198YwsANpRz8ShqO7.zWGrm3mOrNW",
      none, false, false⟩]

def bobOnly : String :=
  "[[account]]\nname = \"bob\"\npassword_hash = \"$2a$04$eATNYyg1m5cG0Qoa5IH9cOov198YwsANpRz8ShqO7.zWGrm3mOrNW\"\n"

/-- A node whose store holds `alice` and `bob`, with one connection registered as `alice` that has
opened a transaction, buffered `GET k` and started running it. -/
def aliceInTransaction : Node :=
  (((((Node.start { (default : Config) with maxLine := 512, limits := ⟨65536, 1048576⟩, maxPending := 256 }
    ⟨builtinTable, []⟩ { (default : Services) with
      accounts := (Accounts.build bcrypt (some (Bytes.ofString "r")) aliceAndBob).toOption } .counter none 0).openPipe 0).2.attach
    [.socket (Socket.create serverSide 0)] 0 (Bytes.ofString "mem:a") (Bytes.ofString "mem") none).2.modifySession
    (sessionId 1) (·.register ⟨Bytes.ofString "alice", Bytes.ofString "rwp", false⟩)).submit (sessionId 1)
    (Bytes.ofString "MULTI\r\nGET k\r\nMRUN\r\n")).tick.2.tick.2.tick.2

/-- `alice` may read; the accounts file is reloaded without her, with the TOML decoder; the `GET k`
her transaction buffered before the reload is then refused when it is replayed. -/
theorem buffered_get_refused_after_revocation :
    let s := aliceInTransaction.reloadAll tomlAccounts [bobOnly]
    (∃ hasher d es a₀, Accounts.build hasher d es = .ok a₀ ∧ aliceInTransaction.services.accounts = some a₀) ∧
      (aliceInTransaction.identityNow (sessionId 1)).any (·.has 114) = true ∧
      ∃ (desc : Descriptor Builtin) (p : Pending) (more : List Pending),
        s.dispatcher.lookup (Bytes.ofString "GET") = some desc ∧ desc.permission = some 114 ∧
        p.name = Bytes.ofString "GET" ∧ p.params = [Bytes.ofString "k"] ∧
        (runner (sessionId 1)).step false s =
          (.replayed, ((s.modifyQueue (sessionId 1) fun _ => (s.queueOf (sessionId 1)).replayFrom more).refusal
            (sessionId 1) desc 114 p.params).2) := by
  intro s
  obtain ⟨a₀, hb⟩ : ∃ a₀, Accounts.build bcrypt (some (Bytes.ofString "r")) aliceAndBob = .ok a₀ := by
    cases h : Accounts.build bcrypt (some (Bytes.ofString "r")) aliceAndBob with
    | error e =>
      have hok : (Accounts.build bcrypt (some (Bytes.ofString "r")) aliceAndBob).toBool = true := by decide +kernel
      simp [h, Except.toBool] at hok
    | ok a₀ => exact ⟨a₀, rfl⟩
  have hs₀ : aliceInTransaction.services.accounts = some a₀ := by
    have h : aliceInTransaction.services.accounts =
        (Accounts.build bcrypt (some (Bytes.ofString "r")) aliceAndBob).toOption := by
      decide +kernel
    rw [h, hb]
    rfl
  obtain ⟨heq, hall⟩ := capabilities_follow_reloads tomlAccounts aliceInTransaction a₀ ⟨_, _, _, hb⟩ hs₀ [bobOnly]
  -- the reload touches the services only, so the connection and its queue are as before it
  have hconns : s.conns = aliceInTransaction.conns := (congrArg Node.conns heq :)
  have hdisp : s.dispatcher = aliceInTransaction.dispatcher := (congrArg Node.dispatcher heq :)
  have hq : s.queueOf (sessionId 1) = aliceInTransaction.queueOf (sessionId 1) := by
    simp only [queueOf, conn?, hconns]
  have hreg : (aliceInTransaction.conn? (sessionId 1)).map
      (fun c => (c.session.registered, c.session.identity.account)) = some (true, Bytes.ofString "alice") := by
    decide +kernel
  obtain ⟨c, hc, hcv⟩ := Option.map_eq_some_iff.1 hreg
  obtain ⟨hr, hacct⟩ := Prod.mk.inj hcv
  have hc' : s.conn? (sessionId 1) = some c := by simp only [conn?, hconns, ← hc]
  -- no account of the reloaded snapshot answers to alice
  have hnames : ((a₀.reloaded tomlAccounts aliceInTransaction.services.hasher [bobOnly]).entries.map
      (·.2)).map (fun x => Text.toLower x.name) = [Bytes.ofString "bob"] := by
    have hmap : ((Accounts.load tomlAccounts aliceInTransaction.services.hasher "load accounts" bobOnly).toOption.map
        fun a => (a.entries.map (·.2)).map fun x => Text.toLower x.name) = some [Bytes.ofString "bob"] := by
      decide +kernel
    cases hl : Accounts.load tomlAccounts aliceInTransaction.services.hasher "load accounts" bobOnly with
    | error e => rw [hl] at hmap; cases hmap
    | ok a => rw [hl] at hmap; simpa [Accounts.reloaded, hl, Except.toOption] using hmap
  have hv : ¬∃ acct, (a₀.reloaded tomlAccounts aliceInTransaction.services.hasher [bobOnly]).Answers
      c.session.identity.account acct := by
    rintro ⟨acct, hm, hk, -⟩
    have hbob : Text.toLower acct.name ∈ [Bytes.ofString "bob"] := hnames ▸ List.mem_map_of_mem hm
    rw [List.mem_singleton.1 hbob, hacct] at hk
    exact absurd hk (by decide +kernel)
  obtain ⟨-, -, hrefuse⟩ := hall (sessionId 1) c hc' hr
  -- GET is found, guarded by the read capability; the transaction runs with GET k first
  have hperm : (aliceInTransaction.dispatcher.lookup (Bytes.ofString "GET")).map (·.permission) = some (some 114) := by
    decide +kernel
  obtain ⟨desc, hl, hf⟩ := Option.map_eq_some_iff.1 hperm
  have hhead : ((aliceInTransaction.queueOf (sessionId 1)).buffer.head?.map fun p => (p.name, p.params)) =
      some (Bytes.ofString "GET", [Bytes.ofString "k"]) := by
    decide +kernel
  obtain ⟨p, hph, hp⟩ := Option.map_eq_some_iff.1 hhead
  obtain ⟨more, hbuf⟩ := List.head?_eq_some_iff.1 hph
  have hrun : (aliceInTransaction.queueOf (sessionId 1)).state = .running := by decide +kernel
  have hpend : (aliceInTransaction.queueOf (sessionId 1)).pending = [] :=
    List.isEmpty_iff.1 (by decide +kernel)
  have hname : Text.toUpper p.name = Bytes.ofString "GET" := by
    rw [(Prod.mk.inj hp).1]
    decide +kernel
  refine ⟨⟨_, _, _, a₀, hb, hs₀⟩, by decide +kernel, desc, p, more, hdisp ▸ hl, hf,
    (Prod.mk.inj hp).1, (Prod.mk.inj hp).2, ?_⟩
  exact (hrefuse hv desc 114 hf).2 p more (hq ▸ hrun) (hq ▸ hbuf) (by rw [hq, hpend]; intro e he; cases he)
    (by rw [hname, hdisp]; exact hl)

/-- A session whose account a reload has removed sends a bare GET, which needs the read capability
and one key: it is refused for want of parameters, not for want of the capability. -/
theorem revoked_bare_get_wants_parameters :
    let s := aliceInTransaction.reloadAll tomlAccounts [bobOnly]
    s.identityNow (sessionId 1) = none ∧
      (s.dispatcher.execute (host (sessionId 1)) (Bytes.ofString "GET") [] s).1 =
        (.invalid, some (.missingParams (Bytes.ofString "GET") 1 0)) := by
  decide +kernel

end Node

end LineKv.Server
