import LineKv.Proofs.StoreContract

/-!
Building the accounts snapshot from a decoded accounts file: the default capabilities, when the
file gives them, and the entries. Main statement: `Accounts.build_accepts_exactly`.
-/

namespace LineKv

namespace Accounts

def defaultCaps (defaults : Option Bytes) : Bytes :=
  (defaults.map Text.trimSpace).getD (Bytes.ofString "r")

def CapsOk (caps : Bytes) : Prop := ∀ c ∈ caps, c ∈ capabilityLetters

def HashOk (hasher : Hasher) (hash : Bytes) : Prop := ∃ cost, hasher.cost hash = .ok cost

theorem checkCapabilities_eq_none {caps : Bytes} : checkCapabilities caps = none ↔ CapsOk caps := by
  simp [checkCapabilities, CapsOk, List.find?_eq_none]

end Accounts

namespace AccountEntry

def key (e : AccountEntry) : Bytes := Text.toLower (Text.trimSpace e.name)

/-- The account an entry describes, when it gives no capabilities of its own taking `dflt`. -/
def account (dflt : Bytes) (e : AccountEntry) : Account :=
  ⟨Text.trimSpace e.name, Text.trimSpace e.passwordHash, (e.capabilities.map Text.trimSpace).getD dflt,
    e.admin, e.disabled⟩

/-- What a build checks of one entry by itself. -/
structure Ok (hasher : Hasher) (dflt : Bytes) (e : AccountEntry) : Prop where
  name : Account.NameOk (Text.trimSpace e.name)
  hash : Accounts.HashOk hasher (Text.trimSpace e.passwordHash)
  caps : Accounts.CapsOk (e.account dflt).capabilities

end AccountEntry

namespace Accounts

/-- What a build accepts: well-formed defaults and entries, no two entries under one key. -/
structure Accepts (hasher : Hasher) (defaults : Option Bytes) (entries : List AccountEntry) : Prop where
  caps : CapsOk (defaultCaps defaults)
  each : ∀ e ∈ entries, e.Ok hasher (defaultCaps defaults)
  distinct : (entries.map AccountEntry.key).Nodup

/-- The step `build` folds over the entries: check one entry against the accounts filed so far,
then file it under its key. -/
def fileEntry (hasher : Hasher) (dflt : Bytes) (acc : Except AccountError (List (Bytes × Account) × Nat))
    (e : AccountEntry) : Except AccountError (List (Bytes × Account) × Nat) := do
  let (out, i) ← acc
  let name := Text.trimSpace e.name
  if name.isEmpty || name.any (fun c => c == 32 || c == 9 || c == 58 || c == 42) then
    throw (.badName i e.name)
  let key := Text.toLower name
  if out.any (·.1 == key) then throw (.duplicate name)
  let hash := Text.trimSpace e.passwordHash
  if let .error err := hasher.cost hash then throw (.badHash name err)
  let caps := (e.capabilities.map Text.trimSpace).getD dflt
  if let some c := checkCapabilities caps then throw (.unknownCapability c (some name))
  pure (out ++ [(key, ⟨name, hash, caps, e.admin, e.disabled⟩)], i + 1)

theorem build_eq (hasher : Hasher) (d : Option Bytes) (es : List AccountEntry) :
    build hasher d es = (do
      if let some c := checkCapabilities (defaultCaps d) then throw (.unknownCapability c none)
      let (out, _) ← es.foldl (fileEntry hasher (defaultCaps d)) (.ok ([], 0))
      return ⟨out⟩) := rfl

/-- One step on the accounts filed so far, its checks in order. -/
theorem fileEntry_of_ok (hasher : Hasher) (dflt : Bytes) (out : List (Bytes × Account)) (i : Nat)
    (e : AccountEntry) :
    fileEntry hasher dflt (.ok (out, i)) e =
      if (Text.trimSpace e.name).isEmpty ||
          (Text.trimSpace e.name).any (fun c => c == 32 || c == 9 || c == 58 || c == 42) then
        .error (.badName i e.name)
      else if out.any (·.1 == Text.toLower (Text.trimSpace e.name)) then
        .error (.duplicate (Text.trimSpace e.name))
      else
        match hasher.cost (Text.trimSpace e.passwordHash) with
        | .error err => .error (.badHash (Text.trimSpace e.name) err)
        | .ok _ =>
          match checkCapabilities ((e.capabilities.map Text.trimSpace).getD dflt) with
          | some c => .error (.unknownCapability c (some (Text.trimSpace e.name)))
          | none => .ok (out ++ [(e.key, e.account dflt)], i + 1) := by
  simp only [fileEntry, bind, Except.bind, pure, Except.pure, throw, throwThe, MonadExceptOf.throw]
  split
  · rfl
  · split
    · rfl
    · cases hasher.cost (Text.trimSpace e.passwordHash) with
      | error err => rfl
      | ok cost => cases checkCapabilities ((e.capabilities.map Text.trimSpace).getD dflt) <;> rfl

theorem nameCheck_eq_false {name : Bytes} :
    (name.isEmpty || name.any (fun c => c == 32 || c == 9 || c == 58 || c == 42)) = false ↔
      Account.NameOk name := by
  simp [Account.NameOk, List.isEmpty_eq_false_iff, and_assoc]

theorem any_key_eq_false {out : List (Bytes × Account)} {k : Bytes} :
    out.any (·.1 == k) = false ↔ k ∉ out.map (·.1) := by
  simp only [Bool.eq_false_iff, ne_eq, List.any_eq_true, beq_iff_eq, List.mem_map]

theorem fileEntry_ok {hasher : Hasher} {dflt : Bytes} {out : List (Bytes × Account)} {i : Nat} {e : AccountEntry}
    (he : e.Ok hasher dflt) (hk : e.key ∉ out.map (·.1)) :
    fileEntry hasher dflt (.ok (out, i)) e = .ok (out ++ [(e.key, e.account dflt)], i + 1) := by
  obtain ⟨hn, ⟨cost, hc⟩, hcaps⟩ := he
  have hcheck : checkCapabilities ((e.capabilities.map Text.trimSpace).getD dflt) = none :=
    checkCapabilities_eq_none.2 hcaps
  have hfree : out.any (·.1 == Text.toLower (Text.trimSpace e.name)) = false := any_key_eq_false.2 hk
  rw [fileEntry_of_ok, nameCheck_eq_false.2 hn, hfree, hc]
  simp only [Bool.false_eq_true, if_false, hcheck]

theorem fileEntry_eq_ok {hasher : Hasher} {dflt : Bytes} {out : List (Bytes × Account)} {i : Nat} {e : AccountEntry}
    {r : List (Bytes × Account) × Nat} (h : fileEntry hasher dflt (.ok (out, i)) e = .ok r) :
    e.Ok hasher dflt ∧ e.key ∉ out.map (·.1) ∧ r = (out ++ [(e.key, e.account dflt)], i + 1) := by
  rw [fileEntry_of_ok] at h
  -- a check that fails throws, so the entry passed each one in turn
  split at h
  · cases h
  · rename_i hname
    split at h
    · cases h
    · rename_i hfree
      split at h
      · cases h
      · rename_i cost hc
        split at h
        · cases h
        · rename_i hcheck
          cases h
          exact ⟨⟨nameCheck_eq_false.1 (Bool.eq_false_iff.2 hname), ⟨cost, hc⟩,
            checkCapabilities_eq_none.1 hcheck⟩, any_key_eq_false.1 (Bool.eq_false_iff.2 hfree), rfl⟩

theorem foldl_fileEntry_error (hasher : Hasher) (dflt : Bytes) (err : AccountError) :
    ∀ es : List AccountEntry, es.foldl (fileEntry hasher dflt) (.error err) = .error err
  | [] => rfl
  | _ :: es => foldl_fileEntry_error hasher dflt err es

/-- Filing entries one by one after `out` succeeds exactly when every entry passes its checks and
no key is taken twice, and then files each entry under its key, in order. -/
theorem foldl_fileEntry_ok_iff (hasher : Hasher) (dflt : Bytes) :
    ∀ (es : List AccountEntry) (out : List (Bytes × Account)) (i : Nat)
      {r : List (Bytes × Account) × Nat}, (out.map (·.1)).Nodup →
      (es.foldl (fileEntry hasher dflt) (.ok (out, i)) = .ok r ↔
        (∀ e ∈ es, e.Ok hasher dflt) ∧ (out.map (·.1) ++ es.map AccountEntry.key).Nodup ∧
          r = (out ++ es.map fun e => (e.key, e.account dflt), i + es.length))
  | [], out, i, r, hout => by
    simp only [List.foldl_nil, Except.ok.injEq, List.not_mem_nil, IsEmpty.forall_iff, implies_true,
      List.map_nil, List.append_nil, List.length_nil, Nat.add_zero, true_and, hout]
    exact eq_comm
  | e :: es, out, i, r, hout => by
    rw [List.foldl_cons, List.forall_mem_cons, List.map_cons]
    cases hf : fileEntry hasher dflt (.ok (out, i)) e with
    | error err =>
      -- the entry is refused, so it fails a check or its key is taken
      rw [foldl_fileEntry_error]
      have hno : ¬ (e.Ok hasher dflt ∧ e.key ∉ out.map (·.1)) := fun ⟨he, hk⟩ => by
        rw [fileEntry_ok he hk] at hf
        cases hf
      constructor
      · intro h
        cases h
      · rintro ⟨⟨he, -⟩, hnd, -⟩
        exact (hno ⟨he, fun hk => (List.nodup_append.1 hnd).2.2 _ hk _ List.mem_cons_self rfl⟩).elim
    | ok r' =>
      obtain ⟨he, hk, rfl⟩ := fileEntry_eq_ok hf
      have hout' : ((out ++ [(e.key, e.account dflt)]).map (·.1)).Nodup := by
        rw [List.map_append, List.nodup_append]
        refine ⟨hout, by simp, fun a ha b hb hab => hk ?_⟩
        simp only [List.map_cons, List.map_nil, List.mem_singleton] at hb
        rw [← hb, ← hab]
        exact ha
      rw [foldl_fileEntry_ok_iff hasher dflt es _ _ hout']
      have hkeys : (out ++ [(e.key, e.account dflt)]).map (·.1) ++ es.map AccountEntry.key =
          out.map (·.1) ++ e.key :: es.map AccountEntry.key := by simp
      rw [hkeys, List.append_assoc, List.singleton_append, List.length_cons, Nat.add_right_comm,
        Nat.add_assoc]
      exact ⟨fun ⟨h1, h2, h3⟩ => ⟨⟨he, h1⟩, h2, h3⟩, fun ⟨⟨_, h1⟩, h2, h3⟩ => ⟨h1, h2, h3⟩⟩

theorem build_eq_ok_iff {hasher : Hasher} {d : Option Bytes} {es : List AccountEntry} {a : Accounts} :
    build hasher d es = .ok a ↔ Accepts hasher d es ∧ a = ⟨es.map fun e => (e.key, e.account (defaultCaps d))⟩ := by
  rw [build_eq]
  cases hc : checkCapabilities (defaultCaps d) with
  | some c =>
    have hno : ¬ CapsOk (defaultCaps d) := fun h => by
      rw [checkCapabilities_eq_none.2 h] at hc
      cases hc
    simp only [throw, throwThe, MonadExceptOf.throw, bind, Except.bind]
    constructor
    · intro h
      cases h
    · rintro ⟨ha, -⟩
      exact absurd ha.caps hno
  | none =>
    have hd := checkCapabilities_eq_none.1 hc
    simp only [bind, Except.bind, pure, Except.pure]
    cases hf : es.foldl (fileEntry hasher (defaultCaps d)) (.ok ([], 0)) with
    | error err =>
      -- the fold refused an entry, so the file is not accepted
      have hno : ¬ Accepts hasher d es := fun ha => by
        have := (foldl_fileEntry_ok_iff hasher (defaultCaps d) es [] 0 List.nodup_nil).2
          ⟨ha.each, by simpa using ha.distinct, rfl⟩
        rw [hf] at this
        cases this
      constructor
      · intro h
        cases h
      · rintro ⟨ha, -⟩
        exact absurd ha hno
    | ok r =>
      obtain ⟨hes, hnd, rfl⟩ := (foldl_fileEntry_ok_iff hasher (defaultCaps d) es [] 0 List.nodup_nil).1 hf
      simp only [List.map_nil, List.nil_append] at hnd
      simp only [List.nil_append, Except.ok.injEq]
      exact ⟨fun h => ⟨⟨hd, hes, hnd⟩, h.symm⟩, fun ⟨_, h⟩ => h.symm⟩

/-- Building the accounts snapshot from a decoded file: it succeeds exactly when the file is
accepted (capabilities of `rwpme` letters, well-formed trimmed names, trimmed hashes the hasher
reads a cost from, no two names equal ignoring case), and then the snapshot counts one account per entry, lists every name once in
ascending order, and looks a name up ignoring case and surrounding space, finding the entry's
account with its own trimmed capabilities when it gives the key and the defaults otherwise. -/
theorem build_accepts_exactly (hasher : Hasher) (defaults : Option Bytes) (entries : List AccountEntry) :
    ((∃ a, build hasher defaults entries = .ok a) ↔ Accepts hasher defaults entries) ∧
      ∀ a, build hasher defaults entries = .ok a →
        a.size = entries.length ∧ a.names.Pairwise (· < ·) ∧
        (∀ n, n ∈ a.names ↔ ∃ e ∈ entries, n = Text.trimSpace e.name) ∧
        ∀ n, a.lookup n = (entries.find? fun e => e.key == Text.toLower (Text.trimSpace n)).map
          (AccountEntry.account (defaultCaps defaults)) := by
  refine ⟨⟨?_, fun ha => ⟨_, build_eq_ok_iff.2 ⟨ha, rfl⟩⟩⟩, fun a h => ?_⟩
  · rintro ⟨a, h⟩
    exact (build_eq_ok_iff.1 h).1
  obtain ⟨ha, rfl⟩ := build_eq_ok_iff.1 h
  -- distinct keys make distinct names, since a key is the lower-cased name
  have hnames : (entries.map fun e => Text.trimSpace e.name).Nodup := by
    have hk : entries.map AccountEntry.key = (entries.map fun e => Text.trimSpace e.name).map Text.toLower := by
      simp [AccountEntry.key, Function.comp_def]
    exact (hk ▸ ha.distinct).of_map _
  have hmap : (entries.map fun e => (e.key, e.account (defaultCaps defaults))).map (·.2.name) =
      entries.map fun e => Text.trimSpace e.name := by
    simp [AccountEntry.account, Function.comp_def]
  refine ⟨by simp [size], ?_, fun n => ?_, fun n => ?_⟩
  · rw [names, hmap]
    exact Bytes.sort_strictly_ascending hnames
  · rw [names, hmap, Bytes.mem_sort]
    simp [eq_comm]
  · simp [lookup, List.find?_map, Function.comp_def]

/-- An entry that gives empty capabilities keeps them; one that gives none takes the trimmed
defaults. -/
example : ((build bcrypt (some (Bytes.ofString " rw "))
      [⟨Bytes.ofString " Alice ", Bytes.ofString "$2a$04$abcdefghijklmnopqrstuuabcdefghijklmnopqrstuvwxyzABCDE",
          some [], false, false⟩,
        ⟨Bytes.ofString "bob", Bytes.ofString "$2a$04$abcdefghijklmnopqrstuuabcdefghijklmnopqrstuvwxyzABCDE",
          none, false, false⟩]).toOption.map fun a =>
      ((a.lookup (Bytes.ofString "ALICE ")).map (·.capabilities),
        (a.lookup (Bytes.ofString "Bob")).map (·.capabilities))) =
    some (some [], some (Bytes.ofString "rw")) := by
  decide +kernel

end Accounts

end LineKv
