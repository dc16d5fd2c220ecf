import Outbox.Registry
import Mathlib.Data.List.Induction

/-!
# Which adapters are loaded

The settings list names, and each name has at most one factory, the one that was registered for
it last. For every name that is listed, once or several times, the registry is meant to load one
adapter, the one that the factory of the name builds: `Registry.configured`. What it does load is
`Registry.admitted`, which is `Registry.load` with the names for which the adapters were built.

The two differ in how they tell that a name was listed before. The registry asks the adapters
that are loaded already for their own names, and these need not be the names of their factories.
It `Recognizes` what was listed if they tell the same; `admitted_eq_configured_iff` says that
exactly then all that is configured is loaded once. Otherwise an adapter is loaded twice, and
every change is sent to it twice, or one is left out that no other stands for.
-/

namespace Outbox

/-- The listed names in the form that counts. Blank ones do not count. -/
def AdapterSettings.listed (settings : AdapterSettings) : List String :=
  (settings.active.map Registry.normalName).filter fun name => !name.isEmpty

namespace Registry

/-! ### Factories -/

theorem find?_placeFactory_self (name : String) (f : AdapterFactory)
    (fs : List (String × AdapterFactory)) :
    (placeFactory name f fs).find? (fun g => g.1 == name) = some (name, f) := by
  induction fs with
  | nil => simp [placeFactory]
  | cons g fs ih =>
    rw [placeFactory]
    split
    · simp
    · split
      · simp
      · next hne => rw [List.find?_cons_of_neg (by simpa using Ne.symm hne), ih]

theorem find?_placeFactory_of_ne {name k : String} (h : k ≠ name) (f : AdapterFactory)
    (fs : List (String × AdapterFactory)) :
    (placeFactory name f fs).find? (fun g => g.1 == k) = fs.find? fun g => g.1 == k := by
  induction fs with
  | nil => simp [placeFactory, Ne.symm h]
  | cons g fs ih =>
    rw [placeFactory]
    split
    · rw [List.find?_cons_of_neg (by simpa using Ne.symm h)]
    · split
      · next heq =>
        rw [List.find?_cons_of_neg (by simpa using Ne.symm h),
          List.find?_cons_of_neg (by simpa [← heq] using Ne.symm h)]
      · rw [List.find?_cons, List.find?_cons, ih]

/-- A factory is found under its name, in place of the one that was there before. -/
theorem factory?_register (r : Registry) (name k : String) (f : AdapterFactory) :
    (r.register name f).factory? k = if normalName name = k then some f else r.factory? k := by
  by_cases h : normalName name = k
  · subst h
    rw [if_pos rfl, factory?, register, find?_placeFactory_self]
    rfl
  · rw [if_neg h, factory?, register, find?_placeFactory_of_ne (Ne.symm h), factory?]

/-- A registry with factories that were registered one after the other. -/
def ofFactories (settings : AdapterSettings) (fs : List (String × AdapterFactory)) : Registry :=
  fs.foldl (fun r f => r.register f.1 f.2) { settings := settings }

/-- The factory that was registered last under a name. -/
def lastFactory? (fs : List (String × AdapterFactory)) (name : String) : Option AdapterFactory :=
  (fs.reverse.find? fun f => normalName f.1 == name).map Prod.snd

/-- Registering factories changes nothing else. -/
theorem ofFactories_concat (settings : AdapterSettings) (fs : List (String × AdapterFactory))
    (f : String × AdapterFactory) :
    ofFactories settings (fs ++ [f]) = (ofFactories settings fs).register f.1 f.2 := by
  rw [ofFactories, List.foldl_append]
  rfl

theorem ofFactories_frame (settings : AdapterSettings) (fs : List (String × AdapterFactory)) :
    (ofFactories settings fs).settings = settings ∧ (ofFactories settings fs).loaded = none := by
  induction fs using List.reverseRecOn with
  | nil => exact ⟨rfl, rfl⟩
  | append_singleton fs f ih =>
    rw [ofFactories_concat]
    exact ih

theorem factory?_ofFactories (settings : AdapterSettings) (fs : List (String × AdapterFactory))
    (name : String) : (ofFactories settings fs).factory? name = lastFactory? fs name := by
  induction fs using List.reverseRecOn with
  | nil => simp [ofFactories, factory?, lastFactory?]
  | append_singleton fs f ih =>
    rw [ofFactories_concat, factory?_register, ih]
    by_cases h : normalName f.1 = name <;> simp [lastFactory?, h]

/-! ### What is loaded -/

variable (r : Registry)

/-- A name with the adapter that its factory builds. -/
def built? (name : String) : Option (String × Adapter) :=
  (r.build name).toOption.map fun a => (name, a)

/-- What should be loaded for some names: the adapters of all different ones whose factories
succeed, in the order in which they are first listed. -/
def configured (names : List String) : List (String × Adapter) :=
  names.eraseDups.filterMap r.built?

/-- Loads the adapter of a name, unless an adapter that goes by this name is loaded already. -/
def admitOne (done : List (String × Adapter)) (name : String) : List (String × Adapter) :=
  if done.any fun x => x.2.name == name then done else done ++ (r.built? name).toList

/-- What is loaded for some names. -/
def admitted (names : List String) : List (String × Adapter) := names.foldl r.admitOne []

variable {r} {names : List String} {name : String} {x : String × Adapter}

theorem built?_eq_some_iff : r.built? name = some x ↔ x.1 = name ∧ r.build name = .ok x.2 := by
  obtain ⟨n, a⟩ := x
  rw [built?]
  cases r.build name with
  | ok b => simp [Except.toOption, eq_comm]
  | error why => simp [Except.toOption]

/-- To load for one more of the listed names is to admit it. -/
theorem loadOne_map (r : Registry) (done : List (String × Adapter)) (raw : String) :
    r.loadOne (done.map Prod.snd) raw =
      (if !(normalName raw).isEmpty then r.admitOne done (normalName raw) else done).map
        Prod.snd := by
  by_cases hblank : (normalName raw).isEmpty = true
  · simp [loadOne, hblank]
  · by_cases hany : (done.any fun x => x.2.name == normalName raw) = true
    · simp [loadOne, hblank, admitOne, hany, Function.comp_def]
    · simp only [loadOne, hblank, admitOne, hany, built?]
      cases r.build (normalName raw) <;>
        simp [List.any_map, Function.comp_def, hany, Except.toOption]

/-- To load the adapters is to load those of the listed names. -/
theorem load_eq (r : Registry) : r.load = (r.admitted r.settings.listed).map Prod.snd := by
  have hnone : ([] : List (String × Adapter)).map Prod.snd = [] := rfl
  rw [load, admitted, AdapterSettings.listed, List.foldl_filter, List.foldl_map, ← hnone]
  exact List.foldl_hom (List.map Prod.snd) fun done raw => r.loadOne_map done raw

theorem mem_configured_iff : x ∈ r.configured names ↔ x.1 ∈ names ∧ r.build x.1 = .ok x.2 := by
  simp only [configured, List.mem_filterMap, List.mem_eraseDups, built?_eq_some_iff]
  exact ⟨fun ⟨n, hn, hx, hb⟩ => ⟨hx ▸ hn, hx ▸ hb⟩, fun ⟨hn, hb⟩ => ⟨x.1, hn, rfl, hb⟩⟩

theorem configured_concat (names : List String) (name : String) :
    r.configured (names ++ [name]) =
      r.configured names ++ if name ∈ names then [] else (r.built? name).toList := by
  rw [configured, List.eraseDups_append, List.filterMap_append, configured]
  by_cases h : name ∈ names
  · simp [List.removeAll, h]
  · cases hbuilt : r.built? name <;> simp [List.removeAll, h, List.eraseDups_cons, hbuilt]

theorem admitted_concat (names : List String) (name : String) :
    r.admitted (names ++ [name]) = r.admitOne (r.admitted names) name := by
  rw [admitted, List.foldl_append]
  rfl

/-- No name is configured twice. -/
theorem configured_distinct (names : List String) :
    (r.configured names).Pairwise fun x y => x.1 ≠ y.1 := by
  induction names using List.reverseRecOn with
  | nil => exact .nil
  | append_singleton names name ih =>
    rw [configured_concat]
    split
    · simpa using ih
    · next hnew =>
      rw [List.pairwise_append]
      refine ⟨ih, ?_, fun x hx y hy hxy => ?_⟩
      · cases r.built? name <;> simp
      · obtain ⟨hname, -⟩ := built?_eq_some_iff.1 (Option.mem_toList.1 hy)
        exact hnew (hname ▸ hxy ▸ (mem_configured_iff.1 hx).1)

/-- What is loaded was built by the factory of one of the names. -/
theorem of_mem_admitted (h : x ∈ r.admitted names) : x.1 ∈ names ∧ r.build x.1 = .ok x.2 := by
  induction names using List.reverseRecOn with
  | nil => simp [admitted] at h
  | append_singleton names name ih =>
    rw [admitted_concat, admitOne] at h
    split at h
    · exact (ih h).imp_left (List.mem_append_left _)
    · rcases List.mem_append.1 h with h | h
      · exact (ih h).imp_left (List.mem_append_left _)
      · obtain ⟨hname, hbuild⟩ := built?_eq_some_iff.1 (Option.mem_toList.1 h)
        exact ⟨by simp [hname], hname ▸ hbuild⟩

/-- Of a name whose factory succeeds, either the adapter is loaded or another one that goes by
this name. -/
theorem admitted_of_mem {a : Adapter} (hname : name ∈ names) (hbuild : r.build name = .ok a) :
    (name, a) ∈ r.admitted names ∨ ∃ x ∈ r.admitted names, x.2.name = name := by
  induction names using List.reverseRecOn with
  | nil => simp at hname
  | append_singleton names k ih =>
    rw [admitted_concat, admitOne]
    rcases List.mem_append.1 hname with hname | hname
    · split
      · exact ih hname
      · exact (ih hname).imp (List.mem_append_left _)
          fun ⟨x, hx, hxn⟩ => ⟨x, List.mem_append_left _ hx, hxn⟩
    · obtain rfl := List.mem_singleton.1 hname
      split
      · next hany => exact .inr (by simpa using hany)
      · have hbuilt : r.built? name = some (name, a) := built?_eq_some_iff.2 ⟨rfl, hbuild⟩
        exact .inl (by simp [hbuilt])

/-- At every name whose factory succeeds, the adapters of the names before it tell whether it has
been listed before: it has, exactly if one of them goes by it. -/
def Recognizes (r : Registry) (names : List String) : Prop :=
  ∀ before name after, names = before ++ name :: after → (∃ a, r.build name = .ok a) →
    (name ∈ before ↔ ∃ k ∈ before, ∃ a, r.build k = .ok a ∧ a.name = name)

theorem recognizes_concat (names : List String) (name : String) :
    r.Recognizes (names ++ [name]) ↔
      r.Recognizes names ∧ ((∃ a, r.build name = .ok a) →
        (name ∈ names ↔ ∃ k ∈ names, ∃ a, r.build k = .ok a ∧ a.name = name)) := by
  constructor
  · intro h
    refine ⟨fun before k after hsplit => h before k (after ++ [name]) ?_, h names name [] rfl⟩
    rw [hsplit, List.append_assoc, List.cons_append]
  · rintro ⟨hnames, hlast⟩ before k after hsplit
    rcases List.eq_nil_or_concat after with rfl | ⟨after, last, rfl⟩
    · obtain ⟨rfl, hk⟩ := List.append_inj' hsplit rfl
      obtain rfl := List.singleton_inj.1 hk
      exact hlast
    · rw [List.concat_eq_append, ← List.cons_append, ← List.append_assoc] at hsplit
      exact hnames before k after (List.append_inj' hsplit rfl).1

theorem exists_mem_configured_iff :
    (∃ x ∈ r.configured names, x.2.name = name) ↔
      ∃ k ∈ names, ∃ a, r.build k = .ok a ∧ a.name = name := by
  simp only [mem_configured_iff]
  exact ⟨fun ⟨x, ⟨hk, hbuild⟩, hname⟩ => ⟨x.1, hk, x.2, hbuild, hname⟩,
    fun ⟨k, hk, a, hbuild, hname⟩ => ⟨(k, a), ⟨hk, hbuild⟩, hname⟩⟩

/-- One more name is loaded as it should be, and all before it were, exactly if the adapters of
the names before it tell whether it has been listed before. A mistake is never made up for: what
is loaded twice stays loaded twice, and what is left out for an adapter that goes by its name is
left out each time it is listed. -/
theorem admitted_eq_configured_concat (names : List String) (name : String) :
    r.admitted (names ++ [name]) = r.configured (names ++ [name]) ↔
      r.admitted names = r.configured names ∧ ((∃ a, r.build name = .ok a) →
        (name ∈ names ↔ ∃ k ∈ names, ∃ a, r.build k = .ok a ∧ a.name = name)) := by
  rw [admitted_concat, configured_concat, admitOne, ← exists_mem_configured_iff]
  cases hbuild : r.build name with
  | error why => simp [built?, hbuild, Except.toOption]
  | ok a =>
    have hbuilt : r.built? name = some (name, a) := built?_eq_some_iff.2 ⟨rfl, hbuild⟩
    have hany : (r.admitted names).any (fun x => x.2.name == name) = true ↔
        ∃ x ∈ r.admitted names, x.2.name = name := by simp
    simp only [hbuilt, Option.toList_some, hany, Except.ok.injEq, exists_eq', forall_const]
    by_cases hgoes : ∃ x ∈ r.admitted names, x.2.name = name
    · rw [if_pos hgoes]
      by_cases hlisted : name ∈ names
      · rw [if_pos hlisted, List.append_nil]
        exact ⟨fun h => ⟨h, iff_of_true hlisted (h ▸ hgoes)⟩, fun h => h.1⟩
      · rw [if_neg hlisted]
        refine iff_of_false (fun h => hlisted ?_) fun h => hlisted (h.2.2 (h.1 ▸ hgoes))
        have hmem : (name, a) ∈ r.admitted names := by simp [h]
        exact (of_mem_admitted hmem).1
    · rw [if_neg hgoes]
      by_cases hlisted : name ∈ names
      · rw [if_pos hlisted, List.append_nil]
        refine iff_of_false (fun h => ?_) fun h => hgoes (h.1.symm ▸ h.2.1 hlisted)
        have hmem : (name, a) ∈ r.admitted names :=
          (admitted_of_mem hlisted hbuild).resolve_right hgoes
        have hdistinct := r.configured_distinct names
        rw [← h, List.pairwise_append] at hdistinct
        exact hdistinct.2.2 _ hmem _ List.mem_cons_self rfl
      · rw [if_neg hlisted, List.append_cancel_right_eq]
        exact ⟨fun h => ⟨h, iff_of_false hlisted (h ▸ hgoes)⟩, fun h => h.1⟩

theorem admitted_eq_configured_iff (names : List String) :
    r.admitted names = r.configured names ↔ r.Recognizes names := by
  induction names using List.reverseRecOn with
  | nil => exact iff_of_true rfl fun before name after h => by simp at h
  | append_singleton names name ih =>
    rw [admitted_eq_configured_concat, recognizes_concat, ih]

/-- If each factory builds an adapter that goes by the name of the factory, the registry
recognizes all names. -/
theorem recognizes_of_own_names
    (h : ∀ k ∈ names, ∀ a, r.build k = .ok a → a.name = k) : r.Recognizes names := by
  rintro before name after rfl ⟨a, hbuild⟩
  constructor
  · intro hname
    exact ⟨name, hname, a, hbuild, h name (by simp) a hbuild⟩
  · rintro ⟨k, hk, b, hbuildk, hgoes⟩
    have hown := h k (List.mem_append_left _ hk) b hbuildk
    rwa [← hgoes, hown]

/-- A name without a factory, or whose factory fails, changes nothing for the others. -/
theorem admitted_filter (names : List String) :
    r.admitted (names.filter fun name => (r.built? name).isSome) = r.admitted names := by
  rw [admitted, List.foldl_filter, admitted]
  congr 1
  funext done name
  cases hbuilt : r.built? name <;> simp [admitOne, hbuilt]

/-! ### Using a registry -/

/-- A use of a registry. -/
inductive Use where
  /-- The adapters are loaded, if they are not yet, and counted. -/
  | loadAll
  /-- The adapters are asked for. -/
  | adapters
  /-- Their names are asked for. -/
  | names
  /-- A factory is registered. -/
  | register (name : String) (f : AdapterFactory)

/-- The registry after a use. -/
def use (r : Registry) : Use → Registry
  | .loadAll => r.loadAll.2
  | .adapters => r.adapters.2
  | .names => r.names.2
  | .register name f => r.register name f

/-- Whatever way a registry is asked, it answers with some adapters. -/
structure Gives (r : Registry) (as : List Adapter) : Prop where
  /-- They are the adapters. -/
  adapters : r.adapters.1 = as
  /-- Their number is the number of adapters. -/
  count : r.loadAll.1 = as.length
  /-- Their names are the names of the adapters. -/
  names : r.names.1 = as.map Adapter.name

theorem gives_of_loaded {as : List Adapter} (h : r.loaded = some as) : r.Gives as :=
  ⟨by simp [Registry.adapters, h], by simp [loadAll, Registry.adapters, h],
    by simp [Registry.names, Registry.adapters, h]⟩

/-- Before the adapters are loaded, every question has them loaded. -/
theorem gives_load (h : r.loaded = none) : r.Gives r.load :=
  ⟨by simp [Registry.adapters, h], by simp [loadAll, Registry.adapters, h],
    by simp [Registry.names, Registry.adapters, h]⟩

/-- Once the adapters are loaded, no use changes them. -/
theorem loaded_use {as : List Adapter} (h : r.loaded = some as) (u : Use) :
    (r.use u).loaded = some as := by
  cases u with
  | loadAll => simp [use, loadAll, Registry.adapters, h]
  | adapters => simp [use, Registry.adapters, h]
  | names => simp [use, Registry.names, Registry.adapters, h]
  | register name f => exact h

theorem loaded_uses {as : List Adapter} (h : r.loaded = some as) (us : List Use) :
    (us.foldl use r).loaded = some as :=
  List.foldlRecOn (motive := fun s => s.loaded = some as) us use h fun _ hs u _ => loaded_use hs u

/-- The first question has the adapters loaded for good. -/
theorem loaded_use_of_none (h : r.loaded = none) {u : Use}
    (hu : u ∈ [Use.loadAll, .adapters, .names]) : (r.use u).loaded = some r.load := by
  simp only [List.mem_cons, List.not_mem_nil, or_false] at hu
  rcases hu with rfl | rfl | rfl
  · simp [use, loadAll, Registry.adapters, h]
  · simp [use, Registry.adapters, h]
  · simp [use, Registry.names, Registry.adapters, h]

/-- A registry with any factories, registered one after the other, builds the adapter of a name
by the factory that was registered for it last. For the listed names it loads what is configured,
one adapter for each different name whose factory succeeds and in the order in which they are
first listed, if and only if it recognizes them; so it does if the adapters go by the names of
their factories. Names without a factory or with one that fails change nothing for the others in
any case. The first question, and every later one, is answered with the adapters that were loaded
then, whatever else the registry is used for in between. -/
theorem load_configured_iff (settings : AdapterSettings) (fs : List (String × AdapterFactory)) :
    let r := ofFactories settings fs
    let loaded := r.admitted settings.listed
    (∀ name, r.build name =
      match lastFactory? fs name with
      | some f => f settings
      | none => .error (.unknownAdapter name)) ∧
    r.load = loaded.map Prod.snd ∧
    (loaded = r.configured settings.listed ↔ r.Recognizes settings.listed) ∧
    ((∀ name ∈ settings.listed, ∀ a, r.build name = .ok a → a.name = name) →
      r.load = (r.configured settings.listed).map Prod.snd) ∧
    r.admitted (settings.listed.filter fun name => (r.built? name).isSome) = loaded ∧
    r.Gives r.load ∧
    ∀ first ∈ [Use.loadAll, .adapters, .names], ∀ later : List Use,
      (later.foldl use (r.use first)).Gives r.load := by
  intro r loaded
  obtain ⟨hsettings, hnone⟩ := ofFactories_frame settings fs
  have hload : r.load = loaded.map Prod.snd := by
    rw [load_eq, hsettings]
  refine ⟨fun name => ?_, hload, admitted_eq_configured_iff _, fun hown => ?_,
    admitted_filter _, gives_load hnone, fun first hfirst later => ?_⟩
  · change (match r.factory? name with
      | some f => f r.settings
      | none => .error (.unknownAdapter name)) = _
    rw [factory?_ofFactories, hsettings]
  · have hall : loaded = r.configured settings.listed :=
      (admitted_eq_configured_iff _).2 (recognizes_of_own_names hown)
    rw [hload, hall]
  · exact gives_of_loaded (loaded_uses (loaded_use_of_none hnone hfirst) later)

/-- A factory of adapters that spell their name with a capital letter. -/
def ledgerFactory : AdapterFactory := fun _ => .ok (.scripted { name := "Ledger" })

/-- Case does not count in names of factories, but it does in names of adapters: an adapter is
loaded twice. -/
example :
    ((ofFactories { active := ["Ledger", "ledger"] } [("Ledger", ledgerFactory)]).load.map
      Adapter.name) = ["Ledger", "Ledger"] := by
  decide +kernel

/-- An adapter that one of the factories of a built-in registry makes goes by the name of the
factory. -/
theorem name_of_build_builtin {settings : AdapterSettings} {a : Adapter}
    (h : (builtin settings).build name = .ok a) : a.name = name := by
  have hbadge : normalName BadgeSystem.name = BadgeSystem.name := by decide +kernel
  have hpayroll : normalName Payroll.name = Payroll.name := by decide +kernel
  rw [build, builtin, factory?_register, factory?_register, hbadge, hpayroll] at h
  by_cases hname : BadgeSystem.name = name
  · simp only [if_pos hname, badgeFactory, Except.ok.injEq] at h
    rw [← h, ← hname]
    rfl
  · by_cases hname' : Payroll.name = name
    · simp only [if_neg hname, if_pos hname', payrollFactory] at h
      generalize Payroll.ofSettings _ = built at h
      cases built with
      | error why => cases h
      | ok p =>
        obtain rfl := Except.ok.inj h
        exact hname'
    · simp [hname, hname', factory?] at h

/-- The payroll and badge adapters go by the names of their factories, so of them all that is
configured is loaded once. -/
theorem load_builtin (settings : AdapterSettings) :
    (builtin settings).load = ((builtin settings).configured settings.listed).map Prod.snd := by
  have hall := (admitted_eq_configured_iff (r := builtin settings) settings.listed).2
    (recognizes_of_own_names fun _ _ _ h => name_of_build_builtin h)
  rw [load_eq, ← hall]
  rfl

end Registry

end Outbox
