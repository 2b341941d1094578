import Lisplet.Proofs.Simulation.Evaluation
import Lisplet.Proofs.Simulation.Store
import Lisplet.Session

/-!
# Isolation of bindings

What an evaluation can get at is bounded by its expression, its scope and the store it
starts in: the names in the expression, the scope and those around it, and whatever
the values bound to these names in these scopes bring along. An evaluation neither
changes nor depends on any other binding.
-/

namespace Lisplet

open Effect Coupling

/-! ## What an evaluation can get at -/

section

variable (store : Store) (env : ScopeId) (expr : Node)

mutual

/-- The scopes that the evaluation of an expression in a scope can get at. -/
inductive ReachesScope : ScopeId → Prop
  | start : ReachesScope env
  | outer {s outer : ScopeId} (hscope : ReachesScope s) (hparent : store.parent? s = some outer) :
      ReachesScope outer
  | home {node : Node} {s : ScopeId} (hnode : ReachesNode node) (hhome : s ∈ node.homes) :
      ReachesScope s

/-- The names that it can get at. -/
inductive ReachesName : String → Prop
  | symbol {node : Node} {name : String} (hnode : ReachesNode node)
      (hname : .symbol name ∈ node.atoms) : ReachesName name

/-- The nodes that it can get at: the expression, and the values that the names have in
the scopes. -/
inductive ReachesNode : Node → Prop
  | start : ReachesNode expr
  | bound {s : ScopeId} {name : String} {value : Node} (hscope : ReachesScope s)
      (hname : ReachesName name) (hvalue : store.local? s name = some value) : ReachesNode value

end

end

/-- Whether an atom is a function added by a host. -/
def Atom.isHost : Atom → Bool
  | primitive (.host ..) => true
  | _ => false

/-! ## Computed bounds -/

/-- Whether a node holds no function of a host, no symbols but those with the given
names and no closures but those made in the given scopes. -/
def Node.isConfined (scopes : List ScopeId) (names : List String) (node : Node) : Bool :=
  node.atoms.all (fun
    | .symbol name => names.contains name
    | a => !a.isHost) &&
  node.homes.all (scopes.contains ·)

/-- Whether the given scopes are closed under going outwards, and bind the given names
only to values that lead to nothing but these scopes and names. -/
def Store.confines (store : Store) (scopes : List ScopeId) (names : List String) : Bool :=
  scopes.all fun s => (store.parent? s).all (scopes.contains ·) &&
    names.all fun name => (store.local? s name).all (·.isConfined scopes names)

theorem isHost_eq_false_of_isConfined {scopes : List ScopeId} {names : List String} {node : Node}
    (hnode : node.isConfined scopes names = true) {a : Atom} (ha : a ∈ node.atoms) :
    a.isHost = false := by
  rw [Node.isConfined, Bool.and_eq_true, List.all_eq_true] at hnode
  have hatom := hnode.1 a ha
  cases a with
  | primitive function => simpa using hatom
  | _ => rfl

section

variable {store : Store} {env : ScopeId} {expr : Node} {scopes : List ScopeId}
  {names : List String}

mutual

/-- Scopes and names that confine the store bound what an evaluation can get at. -/
theorem mem_of_reachesScope (hstore : store.confines scopes names = true) (henv : env ∈ scopes)
    (hexpr : expr.isConfined scopes names = true) {s : ScopeId} :
    ReachesScope store env expr s → s ∈ scopes
  | .start => henv
  | .outer hscope hparent => by
    have hmem := mem_of_reachesScope hstore henv hexpr hscope
    rw [Store.confines, List.all_eq_true] at hstore
    simpa [hparent] using (Bool.and_eq_true_iff.mp (hstore _ hmem)).1
  | .home hnode hhome => by
    have hconfined := isConfined_of_reachesNode hstore henv hexpr hnode
    rw [Node.isConfined, Bool.and_eq_true, List.all_eq_true, List.all_eq_true] at hconfined
    simpa using hconfined.2 _ hhome

theorem mem_of_reachesName (hstore : store.confines scopes names = true) (henv : env ∈ scopes)
    (hexpr : expr.isConfined scopes names = true) {name : String} :
    ReachesName store env expr name → name ∈ names
  | .symbol hnode hname => by
    have hconfined := isConfined_of_reachesNode hstore henv hexpr hnode
    rw [Node.isConfined, Bool.and_eq_true, List.all_eq_true] at hconfined
    simpa using hconfined.1 _ hname

theorem isConfined_of_reachesNode (hstore : store.confines scopes names = true)
    (henv : env ∈ scopes) (hexpr : expr.isConfined scopes names = true) {node : Node} :
    ReachesNode store env expr node → node.isConfined scopes names = true
  | .start => hexpr
  | .bound hscope hname hvalue => by
    have hs := mem_of_reachesScope hstore henv hexpr hscope
    have hn := mem_of_reachesName hstore henv hexpr hname
    rw [Store.confines, List.all_eq_true] at hstore
    have hbound := (Bool.and_eq_true_iff.mp (hstore _ hs)).2
    rw [List.all_eq_true] at hbound
    simpa [hvalue] using hbound _ hn

end

end

/-! ## Runs that agree on a part of the store -/

section

variable (inside : ScopeId → Prop) (names : String → Prop)

/-- Atoms that are no functions of a host, with symbols among the given names. -/
def IsAdmitted (a : Atom) : Prop := a.isHost = false ∧ ∀ name, a = .symbol name → names name

theorem isAdmitted_nil : IsAdmitted names .nil := ⟨rfl, by simp⟩

theorem isAdmitted_bool (value : Bool) : IsAdmitted names (.bool value) := ⟨rfl, by simp⟩

/-- Equal nodes with symbols among the given names and closures made in the given
scopes. -/
def Likeness.within : Likeness :=
  .exact (IsAdmitted names) inside (isAdmitted_nil names) (isAdmitted_bool names)

variable (start : Store)

/-- Two stores grown from one size that agree on the given names in the given scopes
and on all scopes made since. The first still has the bindings it started with
everywhere else. -/
structure StoresAgree (store store' : Store) : Prop where
  size_eq : store.scopes.size = store'.scopes.size
  grown : start.scopes.size ≤ store.scopes.size
  parent_eq (s : ScopeId) : store.parent? s = store'.parent? s
  outer (s outer : ScopeId) : inside s → store.parent? s = some outer → inside outer
  bound (s : ScopeId) (name : String) : inside s → names name →
    Option.Rel (Likeness.within inside names).Alike (store.local? s name) (store'.local? s name)
  made (s : ScopeId) : start.scopes.size ≤ s → store.scopes[s]? = store'.scopes[s]?
  kept (s : ScopeId) (name : String) : s < start.scopes.size → ¬ (inside s ∧ names name) →
    store.local? s name = start.local? s name

variable {inside names start} {store store' : Store}

namespace StoresAgree

/-- A name of the agreed part is found in one scope of it. -/
theorem resolve?_eq (hagree : StoresAgree inside names start store store') {s : ScopeId}
    {name : String} (hscope : inside s) (hname : names name) :
    store.resolve? name s = store'.resolve? name s ∧
      ∀ home, store.resolve? name s = some home → inside home := by
  refine Store.resolve?_congr inside hagree.outer (fun s _ => hagree.parent_eq s) ?_ hscope
  exact fun s hs => Store.defined_eq_of_rel (hagree.bound s name hs hname)

theorem lookup?_alike (hagree : StoresAgree inside names start store store') {s : ScopeId}
    {name : String} (hscope : inside s) (hname : names name) :
    Option.Rel (Likeness.within inside names).Alike (store.lookup? s name)
      (store'.lookup? s name) := by
  obtain ⟨hsame, hinside⟩ := hagree.resolve?_eq hscope hname
  unfold Store.lookup?
  rw [← hsame]
  cases hhome : store.resolve? name s with
  | none => exact .none
  | some home => exact hagree.bound home name (hinside home hhome) hname

theorem define (hagree : StoresAgree inside names start store store') {s : ScopeId}
    {name : String} {value value' : Node} (hscope : inside s) (hname : names name)
    (hvalue : (Likeness.within inside names).Alike value value') :
    StoresAgree inside names start (store.define s name value)
      (store'.define s name value') where
  size_eq := by simp [hagree.size_eq]
  grown := by simpa using hagree.grown
  parent_eq t := by simp [hagree.parent_eq t]
  outer t outer ht hparent := by
    rw [Store.parent?_define] at hparent
    exact hagree.outer t outer ht hparent
  bound t other ht hother := by
    rw [Store.local?_define, Store.local?_define, ← hagree.size_eq]
    split
    · exact .some hvalue
    · exact hagree.bound t other ht hother
  made t ht := by
    rw [hvalue.eq Likeness.exact_isExact, Store.define, Store.define,
      Array.getElem?_modify, Array.getElem?_modify, hagree.made t ht]
  kept t other ht houtside := by
    rw [Store.local?_define, if_neg ?_]
    · exact hagree.kept t other ht houtside
    · rintro ⟨rfl, rfl, -⟩
      exact houtside ⟨hscope, hname⟩

theorem enclose (hagree : StoresAgree inside names start store store')
    {parent : ScopeId} {bindings bindings' : List (String × Node)} (hparent : inside parent)
    (hbindings : (Likeness.within inside names).BindingsAlike bindings bindings') :
    StoresAgree inside names start (store.enclose (some parent) bindings).1
      (store'.enclose (some parent) bindings').1 := by
  have hsame := hbindings.eq Likeness.exact_isExact
  have hscope := Likeness.scopeAlike_ofBindings (some parent) hbindings
  -- the scope made now is none of those that have to be kept
  have hold : ∀ t, t < start.scopes.size → t ≠ store.scopes.size := by
    intro t ht heq
    exact absurd hagree.grown (by omega)
  constructor
  case size_eq => rw [Store.size_enclose, Store.size_enclose, hagree.size_eq]
  case grown =>
    rw [Store.size_enclose]
    exact Nat.le_succ_of_le hagree.grown
  case parent_eq =>
    intro t
    rw [hsame]
    by_cases ht : t = store.scopes.size
    · rw [Store.parent?, Store.parent?, Store.getElem?_enclose, Store.getElem?_enclose,
        ← hagree.size_eq, if_pos ht, if_pos ht]
    · rw [Store.parent?_enclose _ _ _ _ ht, Store.parent?_enclose _ _ _ _ (hagree.size_eq ▸ ht),
        hagree.parent_eq t]
  case outer =>
    intro t outer ht houter
    by_cases hlast : t = store.scopes.size
    · rw [Store.parent?, Store.getElem?_enclose, if_pos hlast, Option.bind_some,
        Scope.parent_ofBindings, Option.filter_eq_some_iff] at houter
      cases houter.1
      exact hparent
    · rw [Store.parent?_enclose _ _ _ _ hlast] at houter
      exact hagree.outer t outer ht houter
  case bound =>
    intro t other ht hother
    by_cases hlast : t = store.scopes.size
    · rw [Store.local?, Store.local?, Store.getElem?_enclose, Store.getElem?_enclose,
        ← hagree.size_eq, if_pos hlast, if_pos hlast]
      exact hscope.2.lookup other
    · rw [Store.local?_enclose _ _ _ _ _ hlast,
        Store.local?_enclose _ _ _ _ _ (hagree.size_eq ▸ hlast)]
      exact hagree.bound t other ht hother
  case made =>
    intro t ht
    rw [Store.getElem?_enclose, Store.getElem?_enclose, ← hagree.size_eq, hsame, hagree.made t ht]
  case kept =>
    intro t other ht houtside
    rw [Store.local?_enclose _ _ _ _ _ (hold t ht)]
    exact hagree.kept t other ht houtside

end StoresAgree

end

/-- Runs are compared on the given names in the given scopes. -/
def Coupling.within (inside : ScopeId → Prop) (names : String → Prop) (start : Store) :
    Coupling where
  toLikeness := .within inside names
  scope s s' := s = s' ∧ inside s
  world w w' := StoresAgree inside names start w.store w'.store ∧ w.output = w'.output ∧
    w.sink = w'.sink ∧ w.log = w'.log ∧ w.closures = w'.closures
  leftQuits _ := False
  rightQuits _ := False

/-- Evaluations stay within scopes that are closed under going outwards and include all
new scopes. -/
def Simulation.within (inside : ScopeId → Prop) (names : String → Prop) (start : Store)
    (hnew : ∀ s, start.scopes.size ≤ s → inside s) : Simulation where
  toCoupling := .within inside names start
  home_of_scope := id
  leftQuits_locate _ := id
  rightQuits_locate _ := id
  compute operation {_ _ _ _} ha hb := by
    cases ha
    cases hb
    exact .inr (agrees_self (fun _ => rfl) (fun _ => rfl) _)
  noted line hworld := by
    obtain ⟨hagree, houtput, hsink, hlog, hclosures⟩ := hworld
    exact ⟨hagree, houtput, hsink, congrArg (·.push line) hlog, hclosures⟩
  sink_eq hworld := hworld.2.2.1
  written text _ hworld := by
    obtain ⟨hagree, houtput, -, hlog, hclosures⟩ := hworld
    exact ⟨hagree, congrArg (·.push text) houtput, rfl, hlog, hclosures⟩
  found hworld hscope hname := by
    obtain ⟨rfl, hinside⟩ := hscope
    exact hworld.1.lookup?_alike hinside (hname.2 _ rfl)
  defined hworld hscope hname hvalue := by
    obtain ⟨rfl, hinside⟩ := hscope
    exact ⟨hworld.1.define hinside (hname.2 _ rfl) hvalue, hworld.2⟩
  assigned {w w' s s' name value value'} hworld hscope hname hvalue := by
    obtain ⟨rfl, hinside⟩ := hscope
    obtain ⟨hsame, hhome⟩ := hworld.1.resolve?_eq hinside (hname.2 _ rfl)
    rw [← hsame]
    cases hfound : w.store.resolve? name s with
    | none => exact .none
    | some home =>
        exact .some ⟨hworld.1.define (hhome home hfound) (hname.2 _ rfl) hvalue, hworld.2⟩
  enclosed hworld hparent hbindings := by
    obtain ⟨rfl, hinside⟩ := hparent
    refine ⟨⟨hworld.1.size_eq, hnew _ hworld.1.grown⟩, hworld.1.enclose hinside hbindings, hworld.2⟩
  numbered hworld := by
    obtain ⟨hagree, houtput, hsink, hlog, hclosures⟩ := hworld
    exact ⟨hclosures, hagree, houtput, hsink, hlog, congrArg (· + 1) hclosures⟩
  listed _ _ hhost := by
    cases hhost.1

/-! ## Isolation -/

section

variable {store store' : Store} {env : ScopeId} {expr : Node}

/-- The scopes an evaluation can get at, together with those it may make. -/
def Accessible (store : Store) (env : ScopeId) (expr : Node) (s : ScopeId) : Prop :=
  ReachesScope store env expr s ∨ store.scopes.size ≤ s

/-- Nodes that an evaluation can get at bring along only what it can get at. -/
theorem alike_of_reachesNode
    (hbuiltin : ∀ node, ReachesNode store env expr node → ∀ a ∈ node.atoms, a.isHost = false)
    {node : Node} (hnode : ReachesNode store env expr node) :
    (Likeness.within (Accessible store env expr) (ReachesName store env expr)).Alike node node := by
  refine Likeness.alike_self (fun _ _ => ⟨rfl, rfl⟩) node ?_ ?_
  · intro a ha
    refine ⟨hbuiltin node hnode a ha, ?_⟩
    rintro name rfl
    exact .symbol hnode ha
  · exact fun s hs => ⟨rfl, .inl (.home hnode hs)⟩

theorem storesAgree_start
    (hbuiltin : ∀ node, ReachesNode store env expr node → ∀ a ∈ node.atoms, a.isHost = false)
    (hsize : store'.scopes.size = store.scopes.size)
    (hparent : ∀ s, store'.parent? s = store.parent? s)
    (hbound : ∀ s name, ReachesScope store env expr s → ReachesName store env expr name →
      store'.local? s name = store.local? s name) :
    StoresAgree (Accessible store env expr) (ReachesName store env expr) store store store' := by
  have hbeyond : ∀ (any : Store) (s : ScopeId), any.scopes.size ≤ s → any.scopes[s]? = none :=
    fun any s hs => Array.getElem?_eq_none hs
  constructor
  case size_eq => exact hsize.symm
  case grown => exact Nat.le_refl _
  case parent_eq => exact fun s => (hparent s).symm
  case outer =>
    rintro s outer (hreach | hs) houter
    · exact .inl (.outer hreach houter)
    · rw [Store.parent?, hbeyond store s hs] at houter
      cases houter
  case bound =>
    rintro s name (hreach | hs) hname
    · rw [hbound s name hreach hname]
      cases hvalue : store.local? s name with
      | none => exact .none
      | some value => exact .some (alike_of_reachesNode hbuiltin (.bound hreach hname hvalue))
    · rw [Store.local?, Store.local?, hbeyond store s hs, hbeyond store' s (hsize ▸ hs)]
      exact .none
  case made =>
    intro s hs
    rw [hbeyond store s hs, hbeyond store' s (hsize ▸ hs)]
  case kept => exact fun _ _ _ _ => rfl

/-- Evaluations in two worlds whose stores agree on what can be got at run alike. -/
theorem evaluate_within (depth : Nat) {world : World}
    (hbuiltin : ∀ node, ReachesNode world.store env expr node →
      ∀ a ∈ node.atoms, a.isHost = false)
    (hsize : store'.scopes.size = world.store.scopes.size)
    (hparent : ∀ s, store'.parent? s = world.store.parent? s)
    (hbound : ∀ s name, ReachesScope world.store env expr s →
      ReachesName world.store env expr name → store'.local? s name = world.store.local? s name) :
    let coupling := Coupling.within (Accessible world.store env expr)
      (ReachesName world.store env expr) world.store
    let plain := (evaluate depth expr env).runIn world
    let other := (evaluate depth expr env).runIn { world with store := store' }
    coupling.Agrees coupling.Alike plain.1 other.1 ∧ coupling.world plain.2 other.2 := by
  intro coupling plain other
  have hcarries : (Simulation.within (Accessible world.store env expr)
      (ReachesName world.store env expr) world.store (fun s hs => .inr hs)).Carries
        (perform depth) (perform depth) :=
    Simulation.perform_carries (fun hlt => absurd hlt (Nat.lt_irrefl depth))
      (fun hlt => absurd hlt (Nat.lt_irrefl depth))
  have hexpr : coupling.Alike expr expr := alike_of_reachesNode hbuiltin .start
  have hscope : coupling.scope env env := ⟨rfl, .inl .start⟩
  have hworld : coupling.world world { world with store := store' } :=
    ⟨storesAgree_start hbuiltin hsize hparent hbound, rfl, rfl, rfl, rfl⟩
  obtain (⟨_, _, hquits⟩ | ⟨_, _, hquits⟩) | hrun := hcarries (.evaluate hexpr) hscope hworld
  · exact hquits.elim
  · exact hquits.elim
  · exact hrun

/-- An evaluation that can get at no function of a host changes no binding of a scope it
found but those of the names it can get at in the scopes it can get at. It depends on no
other binding either: from a store with the same scopes and parents that agrees on those
bindings, it gives the same result and the same output, makes the same scopes and leaves
the same bindings there. -/
theorem evaluate_isolated (depth : Nat) (expr : Node) (env : ScopeId) (world : World)
    (hbuiltin : ∀ node, ReachesNode world.store env expr node →
      ∀ a ∈ node.atoms, a.isHost = false) :
    let plain := (evaluate depth expr env).runIn world
    (∀ s name, s < world.store.scopes.size →
      ¬ (ReachesScope world.store env expr s ∧ ReachesName world.store env expr name) →
        plain.2.store.local? s name = world.store.local? s name) ∧
    ∀ store' : Store, store'.scopes.size = world.store.scopes.size →
      (∀ s, store'.parent? s = world.store.parent? s) →
      (∀ s name, ReachesScope world.store env expr s → ReachesName world.store env expr name →
        store'.local? s name = world.store.local? s name) →
      let other := (evaluate depth expr env).runIn { world with store := store' }
      other.1 = plain.1 ∧ other.2.output = plain.2.output ∧ other.2.log = plain.2.log ∧
        other.2.sink = plain.2.sink ∧ other.2.closures = plain.2.closures ∧
        other.2.store.scopes.size = plain.2.store.scopes.size ∧
        (∀ s, world.store.scopes.size ≤ s →
          other.2.store.scopes[s]? = plain.2.store.scopes[s]?) ∧
        ∀ s name, ReachesScope world.store env expr s → ReachesName world.store env expr name →
          other.2.store.local? s name = plain.2.store.local? s name := by
  intro plain
  constructor
  · intro s name hold houtside
    -- the run beside itself says what it keeps
    obtain ⟨-, hagree, -⟩ := evaluate_within depth hbuiltin rfl (fun _ => rfl) (fun _ _ _ _ => rfl)
    refine hagree.kept s name hold ?_
    rintro ⟨hreach | hnew, hname⟩
    · exact houtside ⟨hreach, hname⟩
    · exact absurd hold (Nat.not_lt.mpr hnew)
  · intro store' hsize hparent hbound other
    obtain ⟨hresult, hagree, houtput, hsink, hlog, hclosures⟩ :=
      evaluate_within depth hbuiltin hsize hparent hbound
    refine ⟨(hresult.eq Likeness.exact_isExact).symm, houtput.symm, hlog.symm, hsink.symm, hclosures.symm,
      hagree.size_eq.symm, fun s hs => (hagree.made s hs).symm, ?_⟩
    intro s name hreach hname
    exact (Likeness.eq_of_rel Likeness.exact_isExact (hagree.bound s name (.inl hreach) hname)).symm

end

/-- Two accounts made by one function: closures that share the root scope, each with a
balance in a scope of its own. -/
def accountsSample : World :=
  ((Session.start none .accepting).run 9 (.ofString
    "(define make (lambda (n) (lambda (d) (setf! n (+ n d))))) (define a (make 1)) (define b (make 2))"
    )).2.world

/-- A deposit to the first account. -/
def depositSample : Node := .ofList [.symbol "a", .number (.ofInt 5)]

/-- The deposit changes the balance of the first account, and neither changes nor depends
on the balance of the second. -/
theorem accountsSample_isolated :
    (((evaluate 9 depositSample 0).runIn accountsSample).2.store.local? 1 "n").map Node.text =
      some "6" ∧
    ((evaluate 9 depositSample 0).runIn accountsSample).2.store.local? 2 "n" =
      accountsSample.store.local? 2 "n" ∧
    ((evaluate 9 depositSample 0).runIn
      { accountsSample with store := accountsSample.store.define 2 "n" .nil }).1 =
      ((evaluate 9 depositSample 0).runIn accountsSample).1 := by
  obtain ⟨hstore, hsize, hbalance⟩ :
      accountsSample.store.confines [0, 1] ["a", "n", "d", "setf!", "+"] = true ∧
        2 < accountsSample.store.scopes.size ∧
        (((evaluate 9 depositSample 0).runIn accountsSample).2.store.local? 1 "n").map Node.text =
          some "6" := by decide +kernel
  have hexpr : depositSample.isConfined [0, 1] ["a", "n", "d", "setf!", "+"] = true := by
    decide +kernel
  have hscope : ∀ s, ReachesScope accountsSample.store 0 depositSample s → s ≠ 2 := by
    rintro s hreach rfl
    exact absurd (mem_of_reachesScope hstore List.mem_cons_self hexpr hreach) (by decide)
  obtain ⟨hkept, hsame⟩ := evaluate_isolated 9 depositSample 0 accountsSample fun node hnode a ha =>
    isHost_eq_false_of_isConfined
      (isConfined_of_reachesNode hstore List.mem_cons_self hexpr hnode) ha
  refine ⟨hbalance, ?_, ?_⟩
  · exact hkept 2 "n" hsize fun hreach => hscope 2 hreach.1 rfl
  · refine (hsame (accountsSample.store.define 2 "n" .nil) ?_ ?_ ?_).1
    · exact Store.size_define ..
    · exact fun s => Store.parent?_define ..
    · intro s name hreach _
      rw [Store.local?_define, if_neg fun heq => hscope s hreach heq.1]

end Lisplet
