import Rulebook.Settings.EnvFile
import Rulebook.Proofs.Json.Members

/-!
# Loading an environment file

What a name is bound to after a file has been loaded: to what it was bound to before, and otherwise to
what the file resolves it to. So nothing that is bound changes, even where loading stops halfway.

A second load resolves the file anew, and a reference may then stand for something else, since the
environment counts before the file. But which names the file binds, and which of them to a value, is no
matter of the environment (`alike_resolve`). Every such name is bound after the first load, so a second
one finds nothing left to bind (`loadIfPresent?_again`). A load that stops halfway is another matter: the
name at which it stopped is not bound.
-/

set_option autoImplicit false

namespace Rulebook

/-- A new binding is found under its name, unless the name was bound before. -/
theorem Environment.get?_bindNew (env : Environment) (name value other : Text) :
    (env.bindNew name value).get? other =
      (env.get? other).or (if other = name then some value else none) := by
  unfold bindNew
  split
  · next bound =>
    split
    · next same =>
      obtain ⟨old, found⟩ := Option.isSome_iff_exists.mp bound
      rw [same, found, Option.some_or]
    · rw [Option.or_none]
  · unfold get?
    rw [List.lookup_append, List.lookup_cons, List.lookup_nil]
    split <;> simp_all

namespace EnvFile

/-! ## What a file resolves to -/

/-- Two lists of bindings that bind the same names in the same order, the same of them to a value. -/
def Alike : List Binding → List Binding → Prop :=
  List.Forall₂ fun b c => b.1 = c.1 ∧ b.2.isSome = c.2.isSome

/-- Lists of bindings that agree name by name do so after one more assignment. -/
theorem Alike.assign {bs cs : List Binding} (h : Alike bs cs) (name : Text) {v w : Option Text}
    (same : v.isSome = w.isSome) : Alike (assign name v bs) (assign name w cs) := by
  induction h with
  | nil => exact .cons ⟨rfl, same⟩ .nil
  | @cons b c bs cs first rest ih =>
    obtain ⟨m, x⟩ := b
    obtain ⟨n, y⟩ := c
    obtain ⟨rfl, values⟩ := first
    unfold EnvFile.assign
    dsimp only
    split
    · exact .cons ⟨rfl, same⟩ rest
    · exact .cons ⟨rfl, values⟩ ih

/-- A name that is bound to a value in one of two such lists is bound to some value in the other. -/
theorem Alike.exists_value {bs cs : List Binding} (h : Alike bs cs) {name value : Text}
    (mem : (name, some value) ∈ cs) : ∃ other, (name, some other) ∈ bs := by
  induction h with
  | nil => cases mem
  | @cons b c bs cs first _ ih =>
    rcases List.mem_cons.mp mem with rfl | mem
    · obtain ⟨n, v⟩ := b
      obtain ⟨rfl, values⟩ := first
      obtain ⟨other, rfl⟩ := Option.isSome_iff_exists.mp values
      exact ⟨other, List.mem_cons_self⟩
    · obtain ⟨other, listed⟩ := ih mem
      exact ⟨other, List.mem_cons_of_mem _ listed⟩

/-- Which names a file binds, and which of them to a value, is no matter of the environment. -/
theorem alike_resolve (env other : Environment) (source : Text) :
    Alike (resolve env source) (resolve other source) := by
  have go (bs : List Binding) {resolved resolved' : List Binding} (h : Alike resolved resolved') :
      Alike
        (bs.foldl (fun resolved b =>
          assign b.1 (b.2.map (interpolate (resolvedValue? env resolved))) resolved) resolved)
        (bs.foldl (fun resolved b =>
          assign b.1 (b.2.map (interpolate (resolvedValue? other resolved))) resolved)
          resolved') := by
    induction bs generalizing resolved resolved' with
    | nil => exact h
    | cons b rest ih =>
      refine ih (h.assign b.1 ?_)
      rw [Option.isSome_map, Option.isSome_map]
  exact go (bindings source) .nil

/-- An assignment keeps the order of the names and puts a new one last. -/
theorem names_assign (name : Text) (value : Option Text) (bs : List Binding) :
    (assign name value bs).map Prod.fst =
      if name ∈ bs.map Prod.fst then bs.map Prod.fst else bs.map Prod.fst ++ [name] := by
  induction bs with
  | nil => rfl
  | cons b rest ih =>
    obtain ⟨n, v⟩ := b
    unfold assign
    by_cases same : n = name
    · simp [same]
    · simp only [if_neg same, List.map_cons, ih, List.mem_cons, Ne.symm same, false_or]
      split <;> rfl

/-- A file resolves to one binding for each name. -/
theorem nodup_names_resolve (env : Environment) (source : Text) :
    ((resolve env source).map Prod.fst).Nodup := by
  have step {resolved : List Binding} (distinct : (resolved.map Prod.fst).Nodup) (name : Text)
      (value : Option Text) : ((assign name value resolved).map Prod.fst).Nodup := by
    rw [names_assign]
    split
    · exact distinct
    · next new => exact List.nodup_append_comm.mp (List.nodup_cons.mpr ⟨new, distinct⟩)
  have go (bs : List Binding) {resolved : List Binding} (h : (resolved.map Prod.fst).Nodup) :
      ((bs.foldl (fun resolved b =>
        assign b.1 (b.2.map (interpolate (resolvedValue? env resolved))) resolved)
        resolved).map Prod.fst).Nodup := by
    induction bs generalizing resolved with
    | nil => exact h
    | cons b rest ih => exact ih (step h b.1 _)
  exact go (bindings source) List.nodup_nil

/-! ## What loading binds -/

/-- Binds one name after the other. What is left behind, and whether all bindings were got through:
binding stops at one that no environment takes. -/
def bindUntilFault : List Binding → Environment → Environment × Bool
  | [], env => (env, true)
  | (_, none) :: rest, env => bindUntilFault rest env
  | (name, some value) :: rest, env =>
    if (env.get? name).isSome then bindUntilFault rest env
    else if Environment.admits name value then bindUntilFault rest (env.bindNew name value)
    else (env, false)

variable {env loaded : Environment} {bs : List Binding}

/-- All bindings are made exactly if none of them stops the others. -/
theorem bindAll?_eq_some_iff :
    bindAll? bs env = some loaded ↔ bindUntilFault bs env = (loaded, true) := by
  induction bs generalizing env with
  | nil => simp [bindAll?, bindUntilFault]
  | cons b rest ih =>
    obtain ⟨name, _ | value⟩ := b
    · exact ih
    · unfold bindAll? bindUntilFault
      split
      · exact ih
      · split
        · exact ih
        · simp

/-- What is bound stays bound to the same value. -/
theorem get?_bindUntilFault {name value : Text} (bound : env.get? name = some value) :
    (bindUntilFault bs env).1.get? name = some value := by
  induction bs generalizing env with
  | nil => exact bound
  | cons b rest ih =>
    obtain ⟨n, _ | v⟩ := b
    · exact ih bound
    · unfold bindUntilFault
      split
      · exact ih bound
      · split
        · apply ih
          rw [Environment.get?_bindNew, bound, Option.some_or]
        · exact bound

/-- After all bindings a name has the value that it had before, or else the one that it is given. -/
theorem get?_bindAll? (distinct : (bs.map Prod.fst).Nodup) (h : bindAll? bs env = some loaded)
    (name : Text) : loaded.get? name = (env.get? name).or (bs.lookup name).join := by
  induction bs generalizing env with
  | nil =>
    cases h
    simp
  | cons b rest ih =>
    obtain ⟨n, v⟩ := b
    rw [List.map_cons, List.nodup_cons] at distinct
    -- The name of the first binding is not bound again behind it.
    have later : rest.lookup n = none := by
      rw [List.lookup_eq_none_iff]
      intro entry mem
      have other : n ≠ entry.1 := by
        intro same
        have listed : entry.1 ∈ rest.map Prod.fst := List.mem_map_of_mem mem
        exact distinct.1 (same ▸ listed)
      simpa using other
    rw [List.lookup_cons]
    cases v with
    | none =>
      rw [ih distinct.2 h]
      by_cases here : name = n
      · simp [here, later]
      · simp [beq_eq_false_iff_ne.mpr here]
    | some value =>
      unfold bindAll? at h
      split at h
      · next bound =>
        rw [ih distinct.2 h]
        by_cases here : name = n
        · obtain ⟨old, found⟩ := Option.isSome_iff_exists.mp bound
          rw [here, found, Option.some_or, Option.some_or]
        · simp [beq_eq_false_iff_ne.mpr here]
      · next free =>
        split at h
        · rw [ih distinct.2 h, Environment.get?_bindNew]
          by_cases here : name = n
          · simp [here, later, Option.not_isSome_iff_eq_none.mp free]
          · simp [here, beq_eq_false_iff_ne.mpr here]
        · cases h

/-- Where every name that has a value is bound already, there is nothing to bind. -/
theorem bindAll?_eq_self (bound : ∀ name value, (name, some value) ∈ bs → (env.get? name).isSome) :
    bindAll? bs env = some env := by
  induction bs with
  | nil => rfl
  | cons b rest ih =>
    have later := ih fun name value mem => bound name value (List.mem_cons_of_mem _ mem)
    obtain ⟨name, _ | value⟩ := b
    · exact later
    · rw [bindAll?, if_pos (bound name value List.mem_cons_self), later]

/-- All bindings can be made exactly if an environment takes each of those to a name that is still
free. -/
theorem exists_bindAll?_iff (distinct : (bs.map Prod.fst).Nodup) :
    (∃ loaded, bindAll? bs env = some loaded) ↔
      ∀ name value, (name, some value) ∈ bs → env.get? name = none →
        Environment.admits name value = true := by
  induction bs generalizing env with
  | nil => simp [bindAll?]
  | cons b rest ih =>
    obtain ⟨n, v⟩ := b
    rw [List.map_cons, List.nodup_cons] at distinct
    -- No name comes twice, so what is bound here is no matter of the bindings behind it.
    have elsewhere {name : Text} {value : Option Text} (mem : (name, value) ∈ rest) : name ≠ n := by
      rintro rfl
      have listed : name ∈ rest.map Prod.fst := List.mem_map_of_mem mem
      exact distinct.1 listed
    cases v with
    | none =>
      rw [bindAll?, ih distinct.2]
      simp
    | some value =>
      rw [bindAll?]
      split
      · next bound =>
        rw [ih distinct.2]
        constructor
        · intro later name v mem free
          rcases List.mem_cons.mp mem with here | mem
          · cases here
            rw [free] at bound
            cases bound
          · exact later name v mem free
        · exact fun all name v mem => all name v (List.mem_cons_of_mem _ mem)
      · next free =>
        have free : env.get? n = none := Option.not_isSome_iff_eq_none.mp free
        split
        · next admitted =>
          rw [ih distinct.2]
          have same {name : Text} {v : Option Text} (mem : (name, v) ∈ rest) :
              (env.bindNew n value).get? name = env.get? name := by
            rw [Environment.get?_bindNew, if_neg (elsewhere mem), Option.or_none]
          constructor
          · intro later name v mem unbound
            rcases List.mem_cons.mp mem with here | mem
            · cases here
              exact admitted
            · exact later name v mem ((same mem).trans unbound)
          · intro all name v mem unbound
            exact all name v (List.mem_cons_of_mem _ mem) ((same mem).symm.trans unbound)
        · next refused =>
          constructor
          · rintro ⟨_, ⟨⟩⟩
          · intro all
            exact absurd (all n value List.mem_cons_self free) refused

/-! ## Loading -/

/-- The bindings that loading a file is to make: none if the file is absent or switched off. -/
def due (env : Environment) : Option Text → List Binding
  | some source => if Settings.ignoresEnvFiles env then [] else resolve env source
  | none => []

variable {envFile : Option Text} {bindsAny : Bool}

/-- Loading a file makes the bindings that are due, and tells whether there are any. -/
theorem loadIfPresent?_eq (env : Environment) (envFile : Option Text) :
    loadIfPresent? env envFile =
      (bindAll? (due env envFile) env).map fun loaded => (loaded, !(due env envFile).isEmpty) := by
  cases envFile with
  | none => rfl
  | some source =>
    unfold loadIfPresent? due load?
    dsimp only
    split <;> rfl

/-- Loading succeeds exactly if all bindings that are due can be made. -/
theorem loadIfPresent?_eq_some_iff :
    loadIfPresent? env envFile = some (loaded, bindsAny) ↔
      bindAll? (due env envFile) env = some loaded ∧ (!(due env envFile).isEmpty) = bindsAny := by
  rw [loadIfPresent?_eq]
  simp

/-- No binding is due twice. -/
theorem nodup_names_due (env : Environment) (envFile : Option Text) :
    ((due env envFile).map Prod.fst).Nodup := by
  unfold due
  split
  · split
    · exact List.nodup_nil
    · exact nodup_names_resolve env _
  · exact List.nodup_nil

/-- Whether a file can be loaded: an environment takes every name that is newly bound, with its value. -/
def Loadable (env : Environment) (envFile : Option Text) : Prop :=
  ∀ name value, (name, some value) ∈ due env envFile → env.get? name = none →
    Environment.admits name value = true

/-- Loading succeeds exactly if the file can be loaded. -/
theorem exists_loadIfPresent?_iff :
    (∃ loaded bindsAny, loadIfPresent? env envFile = some (loaded, bindsAny)) ↔
      Loadable env envFile := by
  unfold Loadable
  rw [← exists_bindAll?_iff (nodup_names_due env envFile)]
  simp only [loadIfPresent?_eq_some_iff, exists_and_left, exists_eq', and_true]

/-- After loading, a name has the value that it had before, or else the one that the file resolves it
to. -/
theorem get?_loadIfPresent? (h : loadIfPresent? env envFile = some (loaded, bindsAny)) (name : Text) :
    loaded.get? name = (env.get? name).or ((due env envFile).lookup name).join :=
  get?_bindAll? (nodup_names_due env envFile) (loadIfPresent?_eq_some_iff.mp h).1 name

/-- What a second load would bind to a value, the first load would bind to one too, if perhaps to
another. -/
theorem exists_due {name value : Text} (h : bindAll? (due env envFile) env = some loaded)
    (mem : (name, some value) ∈ due loaded envFile) :
    ∃ other, (name, some other) ∈ due env envFile := by
  unfold due at h mem ⊢
  cases envFile with
  | none => cases mem
  | some source =>
    dsimp only at h mem ⊢
    split at h
    · next off =>
      -- A file that is switched off leaves the environment as it is, and so itself switched off.
      cases h
      rw [if_pos off] at mem
      cases mem
    · next on =>
      split at mem
      · cases mem
      · rw [if_neg on]
        exact (alike_resolve env loaded source).exists_value mem

/-- A file that has been loaded has nothing left to bind, so loading it again changes nothing. -/
theorem loadIfPresent?_again (h : loadIfPresent? env envFile = some (loaded, bindsAny)) :
    ∃ again, loadIfPresent? loaded envFile = some (loaded, again) := by
  obtain ⟨bound, -⟩ := loadIfPresent?_eq_some_iff.mp h
  refine ⟨_, loadIfPresent?_eq_some_iff.mpr ⟨bindAll?_eq_self ?_, rfl⟩⟩
  intro name value mem
  obtain ⟨other, listed⟩ := exists_due bound mem
  rw [get?_loadIfPresent? h, lookup_of_mem (nodup_names_due env envFile) listed]
  simp

/-- The environment after loading, also where loading stops halfway. -/
def afterLoading (env : Environment) (envFile : Option Text) : Environment :=
  (bindUntilFault (due env envFile) env).1

/-- After a load that succeeds, the environment is the one that was loaded. -/
theorem afterLoading_eq (h : loadIfPresent? env envFile = some (loaded, bindsAny)) :
    afterLoading env envFile = loaded := by
  rw [afterLoading, bindAll?_eq_some_iff.mp (loadIfPresent?_eq_some_iff.mp h).1]

end EnvFile

end Rulebook
