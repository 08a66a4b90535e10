import LineKv.Proofs.DispatchEvents
import LineKv.Proofs.StoreContract
import LineKv.Server.Loop

/-!
The monitor's lines. After a command, every sink of the hub but the command's own client gets one
line, the same for all, and the sinks get it in ascending order of id. Main statement:
`Server.monitor_lines_hide_login`.
-/

namespace LineKv

namespace Hub

theorem nodup_empty : empty.sinks.Nodup := List.nodup_nil

theorem nodup_add {h : Hub} (hn : h.sinks.Nodup) (id : Bytes) : (h.add id).sinks.Nodup := by
  unfold add
  split
  · exact hn
  · rename_i hc
    have hid : id ∉ h.sinks := by simpa using hc
    exact hn.append (List.nodup_singleton id) (List.disjoint_singleton.2 hid)

theorem nodup_remove {h : Hub} (hn : h.sinks.Nodup) (id : Bytes) : (h.remove id).sinks.Nodup :=
  hn.filter _

theorem mem_audience {h : Hub} {c k : Bytes} : k ∈ h.audience c ↔ k ∈ h.sinks ∧ k ≠ c := by
  simp [audience]

theorem audience_ascending {h : Hub} (hn : h.sinks.Nodup) (c : Bytes) :
    (h.audience c).Pairwise (· < ·) :=
  Bytes.sort_strictly_ascending (hn.filter _)

theorem paramsText_login {ev : Command.Event} (hn : ev.name = Bytes.ofString "LOGIN")
    (hp : ev.params ≠ []) :
    paramsText ev = Bytes.ofString s!"<{ev.params.length} params redacted>" := by
  have hr : ev.name ∈ redacted := by
    rw [hn]
    simp [redacted]
  simp [paramsText, hr, hp]

theorem format_login_params {ev : Command.Event} (hn : ev.name = Bytes.ofString "LOGIN")
    {ps : List Bytes} (hps : ps.length = ev.params.length) (target : Bytes) :
    format { ev with params := ps } target = format ev target := by
  by_cases hp : ev.params = []
  · -- no parameters on either side: the two events are the same
    have hnil : ps = [] := List.length_eq_zero_iff.1 (by rw [hps, hp, List.length_nil])
    rw [hnil, ← hp]
  · have hps' : ps ≠ [] := fun h => hp (List.length_eq_zero_iff.1 (by rw [← hps, h, List.length_nil]))
    have ht : paramsText { ev with params := ps } = paramsText ev := by
      have hnew : paramsText { ev with params := ps } =
          Bytes.ofString s!"<{ps.length} params redacted>" := paramsText_login hn hps'
      rw [hnew, paramsText_login hn hp, hps]
    simp only [format, ht]

end Hub

namespace Command

variable {H : Type}

/-- Aliases resolve to descriptors of the table. -/
theorem Table.aliases_mem {t : Table H} :
    ∀ {as : List (Bytes × Bytes)} {fb : Fallback H}, t.aliases as = .ok fb → ∀ e ∈ fb, e.2 ∈ t.items
  | [], fb, h => by
    cases h
    simp
  | (name, target) :: rest, fb, h => by
    unfold Table.aliases at h
    dsimp only at h
    split at h
    · cases h
    · split at h
      · cases h
      · rename_i desc hdesc
        split at h
        · cases h
        · rename_i fb' hfb
          cases h
          -- an alias already resolved later in the list keeps that resolution
          intro e he
          split at he
          · exact aliases_mem hfb e he
          · rcases List.mem_cons.1 he with rfl | he
            · exact List.mem_of_find?_eq_some hdesc
            · exact aliases_mem hfb e he

theorem Dispatcher.lookup_mem {d : Dispatcher H} {n : Bytes} {desc : Descriptor H}
    (h : d.lookup n = some desc) : desc ∈ d.table.items ∨ ∃ a, (a, desc) ∈ d.fallback := by
  unfold Dispatcher.lookup at h
  dsimp only at h
  split at h
  · cases h
    exact .inl (List.mem_of_find?_eq_some ‹_›)
  · split at h
    · split at h
      · cases h
        rename_i hf _
        obtain ⟨e, he, rfl⟩ := Option.map_eq_some_iff.1 hf
        exact .inr ⟨e.1, List.mem_of_find?_eq_some he⟩
      · cases h
    · cases h

/-! ## Which call an event belongs to -/

/-- `ev` belongs to a call that client `c` made in `hist`, to a name that resolved to `desc`: it
bears `desc`'s name and the call's parameters as `desc` normalizes them. -/
def Event.OpenedIn (d : Dispatcher H) (hist : List (Bytes × DispatchCall × Seen)) (c : Bytes)
    (desc : Descriptor H) (ev : Event) : Prop :=
  ∃ n ps seen, (c, DispatchCall.execute n ps, seen) ∈ hist ∧ d.lookup (Text.toUpper n) = some desc ∧
    ev.name = desc.name ∧ ev.params = desc.normalize ps

section OpenedIn

variable {d : Dispatcher H} {hist : List (Bytes × DispatchCall × Seen)} {c : Bytes}
  {desc : Descriptor H} {ev : Event}

theorem Event.OpenedIn.mono (h : ev.OpenedIn d hist c desc) (more : List (Bytes × DispatchCall × Seen)) :
    ev.OpenedIn d (hist ++ more) c desc := by
  obtain ⟨n, ps, seen, hm, hl, hn, hp⟩ := h
  exact ⟨n, ps, seen, List.mem_append_left more hm, hl, hn, hp⟩

theorem Event.OpenedIn.reports {post : Event} {r : Outcome} (h : ev.OpenedIn d hist c desc)
    (hr : post.reports ev r) : post.OpenedIn d hist c desc := by
  obtain ⟨n, ps, seen, hm, hl, hn, hp⟩ := h
  obtain ⟨-, hrn, hrp, -, -⟩ := hr
  exact ⟨n, ps, seen, hm, hl, hrn.trans hn, hrp.trans hp⟩

theorem Event.opens_openedIn {n : Bytes} {ps : List Bytes} {seen : Seen}
    (hl : d.lookup (Text.toUpper n) = some desc) (ho : ev.opens c desc ps) :
    ev.OpenedIn d (hist ++ [(c, .execute n ps, seen)]) c desc := by
  obtain ⟨-, hn, hp⟩ := ho
  exact ⟨n, ps, seen, List.mem_append_right hist (List.mem_singleton_self _), hl, hn, hp⟩

end OpenedIn

/-- Every event a history showed, and every event still outstanding, belongs to a call of its
client recorded in the history. -/
structure Attributed (d : Dispatcher H) (hist : List (Bytes × DispatchCall × Seen))
    (o : Outstanding) : Prop where
  shown : ∀ x ∈ hist, ∀ e ∈ x.2.2.events, ∃ desc, e.2.OpenedIn d hist x.1 desc
  outstanding : ∀ c ev, o c = some ev → ∃ desc, ev.OpenedIn d hist c desc

namespace Attributed

variable {d : Dispatcher H} {hist : List (Bytes × DispatchCall × Seen)} {o : Outstanding}

theorem nil : Attributed d [] (fun _ => none) where
  shown _ hx := by cases hx
  outstanding _ _ h := by cases h

/-- One more call: what was attributed stays so, and the call's own events and the outstanding
events after it must be attributed in the longer history. -/
theorem extend (ht : Attributed d hist o) {x : Bytes × DispatchCall × Seen} {o' : Outstanding}
    (hx : ∀ e ∈ x.2.2.events, ∃ desc, e.2.OpenedIn d (hist ++ [x]) x.1 desc)
    (ho : ∀ c ev, o' c = some ev → (∃ desc, ev.OpenedIn d (hist ++ [x]) c desc) ∨ o c = some ev) :
    Attributed d (hist ++ [x]) o' := by
  refine ⟨fun y hy e he => ?_, fun c ev hc => ?_⟩
  · rcases List.mem_append.1 hy with hy | hy
    · obtain ⟨desc, h⟩ := ht.shown y hy e he
      exact ⟨desc, h.mono [x]⟩
    · rw [List.mem_singleton.1 hy]
      exact hx e (List.mem_singleton.1 hy ▸ he)
  · rcases ho c ev hc with h | h
    · exact h
    · obtain ⟨desc, h⟩ := ht.outstanding c ev h
      exact ⟨desc, h.mono [x]⟩

theorem answer (ht : Attributed d hist o) {c : Bytes} {call : DispatchCall} {seen : Seen}
    {o' : Outstanding} (ha : Answer d o c call seen o') : Attributed d (hist ++ [(c, call, seen)]) o' := by
  cases ha with
  | refused => exact ht.extend (fun e he => by cases he) (fun c ev h => .inr h)
  | ran hl hopen _ hrep =>
    refine ht.extend (fun e he => ?_) (fun c ev h => .inr h)
    rcases List.mem_pair.1 he with rfl | rfl
    · exact ⟨_, Event.opens_openedIn hl hopen⟩
    · exact ⟨_, (Event.opens_openedIn hl hopen).reports hrep⟩
  | deferred hl hopen _ | displaced hl hopen _ =>
    refine ht.extend (fun e he => ?_) (fun c' ev' h => ?_)
    · rw [List.mem_singleton.1 he]
      exact ⟨_, Event.opens_openedIn hl hopen⟩
    · -- the new event is now its client's outstanding one; other clients keep theirs
      unfold Outstanding.set at h
      split at h
      · rename_i hc
        cases h
        subst hc
        exact .inl ⟨_, Event.opens_openedIn hl hopen⟩
      · exact .inr h
  | completed hg hrep =>
    obtain ⟨desc, hev⟩ := ht.outstanding _ _ hg
    refine ht.extend (fun e he => ?_) (fun c' ev' h => ?_)
    · rw [List.mem_singleton.1 he]
      exact ⟨desc, (hev.reports hrep).mono _⟩
    · unfold Outstanding.set at h
      split at h
      · cases h
      · exact .inr h
  | unanswered => exact ht.extend (fun e he => by cases he) (fun c ev h => .inr h)

end Attributed

theorem Answered.attributed {d : Dispatcher H} {hist : List (Bytes × DispatchCall × Seen)}
    {o : Outstanding} (h : Answered d (fun _ => none) hist o) : Attributed d hist o := by
  -- a run lemma: induction over the history, one answered call at a time
  induction h with
  | nil => exact Attributed.nil
  | snoc _ ha ih => exact ih.answer ha

end Command

namespace Server

open Command

theorem dispatcherWith_lookup_mem {aliases : List (Bytes × Bytes)} {d : Dispatcher Builtin}
    (hd : dispatcherWith aliases = .ok d) {n : Bytes} {desc : Descriptor Builtin}
    (h : d.lookup n = some desc) : desc ∈ builtinTable.items := by
  cases hfb : builtinTable.aliases aliases with
  | error e =>
    simp [dispatcherWith, hfb] at hd
  | ok fb =>
    have hd' : d = ⟨builtinTable, fb⟩ := by
      simp only [dispatcherWith, hfb] at hd
      exact (Except.ok.inj hd).symm
    subst hd'
    rcases Dispatcher.lookup_mem h with hm | ⟨a, hm⟩
    · exact hm
    · exact Table.aliases_mem hfb _ hm

theorem builtin_login_name {desc : Descriptor Builtin} (hm : desc ∈ builtinTable.items)
    (hl : desc.handler = some .login) : desc.name = Bytes.ofString "LOGIN" := by
  have hall : ∀ x ∈ builtinTable.items, x.handler = some .login → x.name = Bytes.ofString "LOGIN" := by
    decide +kernel
  exact hall desc hm hl

/-- What the monitor of node `s` does with a post-event: one line, the same for every sink of
`hub` but the event's client, sent in strictly ascending order of sink id. -/
def Node.MonitorFans (s : Node) (hub : Hub) : Prop :=
  ∀ ev : Event,
    s.observe ev =
        (hub.audience ev.client).foldl (fun t k => t.send k (Hub.format ev (s.target ev.client))) s ∧
      (hub.audience ev.client).Pairwise (· < ·) ∧
      ∀ k, k ∈ hub.audience ev.client ↔ k ∈ hub.sinks ∧ k ≠ ev.client

theorem Node.monitorFans {s : Node} {hub : Hub} (hs : s.services.monitor = some hub)
    (hnd : hub.sinks.Nodup) : s.MonitorFans hub := fun ev =>
  ⟨by simp [Node.observe, hs], Hub.audience_ascending hnd _, fun _ => Hub.mem_audience⟩

/-- Every event of `hist` belongs to a call of its client and bears the name of the command that
call resolved to; an event of a call that reached LOGIN is named LOGIN, and its monitor line shows
`<k params redacted>` for its `k > 0` parameters and is the same for any parameters of that
number. -/
def LoginHidden (d : Dispatcher Builtin) (hist : List (Bytes × DispatchCall × Seen)) : Prop :=
  ∀ x ∈ hist, ∀ e ∈ x.2.2.events, ∃ desc, e.2.OpenedIn d hist x.1 desc ∧
    (desc.handler = some .login →
      e.2.name = Bytes.ofString "LOGIN" ∧
      (e.2.params ≠ [] →
        Hub.paramsText e.2 = Bytes.ofString s!"<{e.2.params.length} params redacted>") ∧
      ∀ (ps : List Bytes) (target : Bytes), ps.length = e.2.params.length →
        Hub.format { e.2 with params := ps } target = Hub.format e.2 target)

theorem loginHidden_of_attributed {aliases : List (Bytes × Bytes)} {d : Dispatcher Builtin}
    (hd : dispatcherWith aliases = .ok d) {hist : List (Bytes × DispatchCall × Seen)}
    {o : Outstanding} (ht : Attributed d hist o) : LoginHidden d hist := by
  intro x hx e he
  obtain ⟨desc, hev⟩ := ht.shown x hx e he
  refine ⟨desc, hev, fun hlogin => ?_⟩
  obtain ⟨n, ps, seen, -, hres, hname, -⟩ := hev
  have hn : e.2.name = Bytes.ofString "LOGIN" :=
    hname.trans (builtin_login_name (dispatcherWith_lookup_mem hd hres) hlogin)
  exact ⟨hn, Hub.paramsText_login hn, fun ps target hps => Hub.format_login_params hn hps target⟩

/-- After each command, the hub's sinks other than the client get one and the same line, in
strictly ascending order of id. Over every history of calls on a dispatcher built over the
server's commands with any aliases, every event shown belongs to a call of its client and bears
the name of the command that call resolved to: a call that reached LOGIN, under any case or
through an alias, shows events named LOGIN, whose line carries no parameter value. -/
theorem monitor_lines_hide_login (hub : Hub) (hnd : hub.sinks.Nodup) {s : Node}
    (hs : s.services.monitor = some hub) {aliases : List (Bytes × Bytes)} {d : Dispatcher Builtin}
    (hd : dispatcherWith aliases = .ok d) {W : Type} {hosts : Bytes → Host W Builtin}
    {P : W → Parked} (hl : Host.Lawful hosts P) {w : W} (hw : P w = [])
    (calls : List (Bytes × DispatchCall)) :
    s.MonitorFans hub ∧ LoginHidden d (d.callAll hosts calls w).1 := by
  -- the history answers as the dispatcher does, so its events are attributed
  have h₀ : Answered d (fun _ => none) [] (P w).get? := by
    rw [hw]
    exact Answered.nil
  have hans := Dispatcher.callAll_answer hl d h₀ calls
  rw [List.nil_append] at hans
  exact ⟨Node.monitorFans hs hnd, loginHidden_of_attributed hd hans.attributed⟩

/-- The hub left when `w`, `alice` and `bob` turn MONITOR on, then `bob` turns it off. -/
def watchedHub : Hub :=
  (((Hub.empty.add (Bytes.ofString "w")).add (Bytes.ofString "alice")).add (Bytes.ofString "bob")).remove
    (Bytes.ofString "bob")

/-- That hub on a fresh node, and a client that logs in through the alias
`auth` of LOGIN on a bench whose handlers succeed. -/
theorem monitor_lines_hide_login_via_alias :
    watchedHub.sinks.Nodup ∧
      (Node.start default ⟨builtinTable, []⟩ { (default : Services) with monitor := some watchedHub }
          .counter none 0).services.monitor = some watchedHub ∧
      dispatcherWith [(Bytes.ofString "auth", Bytes.ofString "login")] =
        .ok ⟨builtinTable, [(Bytes.ofString "AUTH", describe "LOGIN" 2 2 none true false false .login)]⟩ ∧
      Host.Lawful (Bench.host fun (_ : Builtin) => .returned .success) Bench.parked ∧
      Bench.parked ⟨[], 0⟩ = [] ∧
      (Node.start default ⟨builtinTable, []⟩ { (default : Services) with monitor := some watchedHub }
          .counter none 0).MonitorFans watchedHub ∧
      LoginHidden ⟨builtinTable, [(Bytes.ofString "AUTH", describe "LOGIN" 2 2 none true false false .login)]⟩
        ((⟨builtinTable, [(Bytes.ofString "AUTH", describe "LOGIN" 2 2 none true false false .login)]⟩ :
            Dispatcher Builtin).callAll (Bench.host fun _ => .returned .success)
          [(Bytes.ofString "c", .execute (Bytes.ofString "auth")
            [Bytes.ofString "alice", Bytes.ofString "pw"])] ⟨[], 0⟩).1 :=
  -- a hub built by adding and removing sinks holds each once
  have hnd : watchedHub.sinks.Nodup :=
    Hub.nodup_remove (Hub.nodup_add (Hub.nodup_add (Hub.nodup_add Hub.nodup_empty _) _) _) _
  have hd : dispatcherWith [(Bytes.ofString "auth", Bytes.ofString "login")] =
      .ok ⟨builtinTable, [(Bytes.ofString "AUTH", describe "LOGIN" 2 2 none true false false .login)]⟩ := by
    with_unfolding_all rfl
  ⟨hnd, rfl, hd, Bench.lawful _, rfl, monitor_lines_hide_login watchedHub hnd rfl hd (Bench.lawful _) rfl _⟩

end Server

end LineKv
