import Lisplet.Proofs.Simulation.Effect

/-!
# Evaluations side by side

The evaluator respects every simulation. One case for each form, primitive function
and kind of task shows that a step keeps two runs related, given that smaller tasks
do, and induction on the depth carries this to every evaluation.
-/

namespace Lisplet

open Effect Coupling

/-! ## Operands -/

namespace Likeness

variable {like : Likeness} {nodes others : List Node}

/-- Lists that are alike either both have one element or both have not. -/
theorem AllAlike.single_or (halike : like.AllAlike nodes others) :
    (∃ a a', nodes = [a] ∧ others = [a'] ∧ like.Alike a a') ∨
      ((∀ a, nodes ≠ [a]) ∧ ∀ a, others ≠ [a]) := by
  by_cases hlength : nodes.length = 1
  · obtain ⟨a, rfl⟩ := List.length_eq_one_iff.mp hlength
    obtain ⟨a', rest, rfl, ha, hrest⟩ := halike.exists_cons
    cases hrest.eq_nil
    exact .inl ⟨a, a', rfl, rfl, ha⟩
  · have hlength' := halike.length_eq
    refine .inr ⟨?_, ?_⟩
    · rintro a rfl
      exact hlength rfl
    · rintro a rfl
      exact hlength hlength'

/-- Lists that are alike either both have two elements or both have not. -/
theorem AllAlike.pair_or (halike : like.AllAlike nodes others) :
    (∃ a b a' b', nodes = [a, b] ∧ others = [a', b'] ∧ like.Alike a a' ∧ like.Alike b b') ∨
      ((∀ a b, nodes ≠ [a, b]) ∧ ∀ a b, others ≠ [a, b]) := by
  by_cases hlength : nodes.length = 2
  · obtain ⟨a, b, rfl⟩ := List.length_eq_two.mp hlength
    obtain ⟨a', rest, rfl, ha, hrest⟩ := halike.exists_cons
    obtain ⟨b', rest, rfl, hb, hrest⟩ := hrest.exists_cons
    cases hrest.eq_nil
    exact .inl ⟨a, b, a', b', rfl, rfl, ha, hb⟩
  · have hlength' := halike.length_eq
    refine .inr ⟨?_, ?_⟩
    · rintro a b rfl
      exact hlength rfl
    · rintro a b rfl
      exact hlength hlength'

/-- Lists that are alike either both have at least two elements or both have not. -/
theorem AllAlike.two_or (halike : like.AllAlike nodes others) :
    (∃ a b rest a' b' rest', nodes = a :: b :: rest ∧ others = a' :: b' :: rest' ∧
        like.Alike a a' ∧ like.AllAlike (b :: rest) (b' :: rest')) ∨
      ((∀ a b rest, nodes ≠ a :: b :: rest) ∧ ∀ a b rest, others ≠ a :: b :: rest) := by
  have hlength := halike.length_eq
  match nodes, others, halike with
  | a :: b :: rest, others, halike =>
    obtain ⟨a', others, rfl, ha, hrest⟩ := halike.exists_cons
    obtain ⟨b', rest', rfl, -, -⟩ := id hrest.exists_cons
    exact .inl ⟨a, b, rest, a', b', rest', rfl, rfl, ha, hrest⟩
  | [_], others, _ | [], others, _ =>
    refine .inr ⟨by simp, ?_⟩
    rintro a b rest rfl
    simp at hlength

theorem AllAlike.isEmpty_eq (halike : like.AllAlike nodes others) :
    nodes.isEmpty = others.isEmpty := by
  rw [Bool.eq_iff_iff, List.isEmpty_iff_length_eq_zero, List.isEmpty_iff_length_eq_zero,
    halike.length_eq]

theorem AllAlike.headD_alike (halike : like.AllAlike nodes others) :
    like.Alike (nodes.headD .nil) (others.headD .nil) := by
  cases nodes with
  | nil =>
      cases halike.eq_nil
      exact alike_nil
  | cons node rest =>
      obtain ⟨other, rest', rfl, hnode, -⟩ := halike.exists_cons
      exact hnode

theorem Alike.spliced_alike {node other : Node} (halike : like.Alike node other) :
    like.AllAlike node.spliced other.spliced := by
  unfold Node.spliced
  obtain ⟨hnone, hnone'⟩ | ⟨items, items', hsome, hsome', hitems⟩ := halike.items_alike
  · rw [hnone, hnone']
    exact ⟨halike, trivial⟩
  · rw [hsome, hsome']
    exact hitems

theorem AllAlike.all_quickSame (halike : like.AllAlike nodes others) {first first' : Node}
    (hfirst : like.Alike first first') :
    nodes.all first.quickSame = others.all first'.quickSame := by
  induction nodes generalizing others with
  | nil =>
      cases halike.eq_nil
      rfl
  | cons node rest ih =>
      obtain ⟨other, rest', rfl, hnode, hrest⟩ := halike.exists_cons
      simp only [List.all_cons, Node.quickSame_eq_same, hfirst.same_congr hnode, ih hrest]

/-- Either all of several nodes are numbers, and so are the nodes like them, or the
first that is no number is like the first there. -/
theorem AllAlike.numbers_alike (halike : like.AllAlike nodes others) :
    (∃ values values', numbers nodes = .ok values ∧ numbers others = .ok values' ∧
        List.Forall₂ like.number values values') ∨
      ∃ node node', numbers nodes = .error node ∧ numbers others = .error node' ∧
        like.Alike node node' := by
  induction nodes generalizing others with
  | nil =>
      cases halike.eq_nil
      exact .inl ⟨[], [], rfl, rfl, .nil⟩
  | cons node rest ih =>
      obtain ⟨other, rest', rfl, hnode, hrest⟩ := halike.exists_cons
      rw [numbers, numbers]
      obtain ⟨hnone, hnone'⟩ | ⟨x, y, hsome, hsome', hnumber⟩ := hnode.number_alike
      · rw [hnone, hnone']
        exact .inr ⟨node, other, rfl, rfl, hnode⟩
      · rw [hsome, hsome']
        obtain ⟨values, values', hok, hok', hvalues⟩ | ⟨wrong, wrong', herror, herror', hwrong⟩ :=
          ih hrest
        · rw [hok, hok']
          exact .inl ⟨_, _, rfl, rfl, .cons hnumber hvalues⟩
        · rw [herror, herror']
          exact .inr ⟨_, _, rfl, rfl, hwrong⟩

end Likeness

namespace Simulation

variable {sim : Simulation} {s s' : ScopeId} {nodes others : List Node}

/-! ## Primitive functions that only look at their arguments -/

theorem fold_agrees (operation : Arithmetic) {first first' : Decimal} {rest rest' : List Decimal}
    (hfirst : sim.number first first') (hrest : List.Forall₂ sim.number rest rest') :
    sim.Quits (operation.fold first rest) (operation.fold first' rest') ∨
      sim.Agrees sim.number (operation.fold first rest) (operation.fold first' rest') := by
  induction hrest generalizing first first' with
  | nil => exact .inr (.ok hfirst)
  | @cons b b' rest rest' hb hrest ih =>
      simp only [Arithmetic.fold, List.foldlM_cons] at ih ⊢
      have hcompute := sim.compute operation hfirst hb
      generalize operation.compute first b = result at hcompute ⊢
      generalize operation.compute first' b' = result' at hcompute ⊢
      obtain (⟨stop, rfl, hquits⟩ | ⟨stop, rfl, hquits⟩) | hagrees := hcompute
      · exact .inl (.inl ⟨stop, rfl, hquits⟩)
      · exact .inl (.inr ⟨stop, rfl, hquits⟩)
      · cases hagrees with
        | ok hnumber => exact ih hnumber
        | error hstop => exact .inr (.error hstop)

theorem related_arithmetic (operation : Arithmetic) (hargs : sim.AllAlike nodes others) :
    sim.Related sim.Alike (operation.run nodes) (operation.run others) := by
  unfold Arithmetic.run
  obtain ⟨values, values', hok, hok', hvalues⟩ | ⟨node, node', herror, herror', hnode⟩ :=
    hargs.numbers_alike
  · rw [hok, hok']
    cases hvalues with
    | nil => exact related_raise _
    | cons hfirst hrest =>
        cases hrest with
        | nil => exact related_pure hargs.headD_alike
        | cons hsecond hrest =>
            refine Related.bind (related_lift (fold_agrees operation hfirst (.cons hsecond hrest))) ?_
            exact fun _ _ hnumber => related_pure (Likeness.alike_number hnumber)
  · rw [herror, herror']
    exact related_textOf_bind hnode (related_raise _)

theorem compare_congr {a b a' b' : Decimal} (ha : sim.number a a') (hb : sim.number b b') :
    a.compare b = a'.compare b' := by
  rw [Decimal.compare_eq_cmp, Decimal.compare_eq_cmp, sim.value_eq ha, sim.value_eq hb]

theorem related_comparison (order : Comparison) (hargs : sim.AllAlike nodes others) :
    sim.Related sim.Alike (order.run nodes) (order.run others) := by
  obtain ⟨a, b, a', b', rfl, rfl, ha, hb⟩ | ⟨hpair, hpair'⟩ := hargs.pair_or
  · have hraise : sim.Related sim.Alike
        (do raise (.uncomparable order.name (← textOf a) (← textOf b)))
        (do raise (.uncomparable order.name (← textOf a') (← textOf b'))) :=
      related_textOf_bind ha (related_textOf_bind hb (related_raise _))
    rw [Comparison.run, Comparison.run]
    obtain ⟨hnone, hnone'⟩ | ⟨x, x', hx, hx', hnumber⟩ := ha.number_alike
    · rw [hnone, hnone']
      exact hraise
    · obtain ⟨hnone, hnone'⟩ | ⟨y, y', hy, hy', hother⟩ := hb.number_alike
      · rw [hnone, hnone', hx, hx']
        exact hraise
      · rw [hx, hx', hy, hy']
        refine related_pure ?_
        rw [compare_congr hnumber hother]
        exact Likeness.alike_bool _
  · simp only [Comparison.run, hargs.length_eq]
    exact related_raise _

theorem related_listOf (function : String) {node node' : Node} (hnode : sim.Alike node node') :
    sim.Related sim.AllAlike (listOf function node) (listOf function node') := by
  unfold listOf
  obtain ⟨hnone, hnone'⟩ | ⟨items, items', hsome, hsome', hitems⟩ := hnode.items_alike
  · rw [hnone, hnone']
    exact related_textOf_bind hnode (related_raise _)
  · rw [hsome, hsome']
    exact related_pure hitems

theorem related_nonEmptyListOf (function : String) (hargs : sim.AllAlike nodes others) :
    sim.Related (fun found found' => sim.Alike found.1 found'.1 ∧ sim.AllAlike found.2 found'.2)
      (nonEmptyListOf function nodes) (nonEmptyListOf function others) := by
  obtain ⟨a, a', rfl, rfl, ha⟩ | ⟨hsingle, hsingle'⟩ := hargs.single_or
  · refine (related_listOf function ha).bind ?_
    intro items items' hitems
    cases items with
    | nil =>
        cases hitems.eq_nil
        exact related_raise _
    | cons first rest =>
        obtain ⟨first', rest', rfl, hfirst, hrest⟩ := hitems.exists_cons
        exact related_pure ⟨hfirst, hrest⟩
  · simp only [nonEmptyListOf, hargs.length_eq]
    exact related_raise _

/-! ## Primitive functions -/

/-- Tasks that correspond. -/
inductive TaskAlike (sim : Simulation) : Task → Task → Prop
  | evaluate {expr expr' : Node} (hexpr : sim.Alike expr expr') :
      TaskAlike sim (.evaluate expr) (.evaluate expr')
  | apply {function function' : Node} {args args' : List Node}
      (hfunction : sim.Alike function function') (hargs : sim.AllAlike args args') :
      TaskAlike sim (.apply function args) (.apply function' args')

/-- Two ways to have tasks done keep the runs related. -/
def Carries (sim : Simulation) (evaluator evaluator' : Evaluator) : Prop :=
  ∀ ⦃task task' : Task⦄ ⦃s s' : ScopeId⦄, sim.TaskAlike task task' → sim.scope s s' →
    sim.Related sim.Alike (evaluator task s) (evaluator' task' s')

variable {evaluator evaluator' : Evaluator}

theorem related_negation {node node' : Node} (hnode : sim.Alike node node') :
    sim.Related sim.Alike
      (match node.bool? with
        | some value => pure (.bool !value)
        | none => do raise (.notBool (← textOf node)))
      (match node'.bool? with
        | some value => pure (.bool !value)
        | none => do raise (.notBool (← textOf node'))) := by
  rw [← hnode.observed_eq.1]
  cases node.bool? with
  | some value => exact related_pure (Likeness.alike_bool _)
  | none => exact related_textOf_bind hnode (related_raise _)

theorem related_display {node node' : Node} (hnode : sim.Alike node node') :
    sim.Related sim.Alike
      (do
        if !node.hasText then throw (.fault .unknownNode)
        write (node.displayText ++ "\n")
        pure .nil)
      (do
        if !node'.hasText then throw (.fault .unknownNode)
        write (node'.displayText ++ "\n")
        pure .nil) := by
  rw [← hnode.text_eq.2, ← hnode.displayText_eq]
  split
  · exact related_throw (.fault _)
  · refine (related_write _).bind ?_
    exact fun _ _ _ => related_pure Likeness.alike_nil

theorem related_builtin (hcarries : sim.Carries evaluator evaluator') (hscope : sim.scope s s')
    (hargs : sim.AllAlike nodes others) (function : Builtin) :
    sim.Related sim.Alike (function.run evaluator s nodes) (function.run evaluator' s' others) := by
  -- a wrong number of arguments is reported by that number, which is the same in both runs
  have hlength := hargs.length_eq
  have hsingle := hargs.single_or
  have hpair := hargs.pair_or
  cases function with
  | arithmetic operation => exact related_arithmetic operation hargs
  | comparison order => exact related_comparison order hargs
  | equal =>
      cases nodes with
      | nil =>
          cases hargs.eq_nil
          exact related_raise _
      | cons first rest =>
          obtain ⟨first', rest', rfl, hfirst, hrest⟩ := hargs.exists_cons
          refine related_pure ?_
          rw [hrest.all_quickSame hfirst]
          exact Likeness.alike_bool _
  | car => exact (related_nonEmptyListOf "car" hargs).bind fun _ _ hfound => related_pure hfound.1
  | cdr =>
      refine (related_nonEmptyListOf "cdr" hargs).bind ?_
      exact fun _ _ hfound => related_pure (Likeness.alike_ofList hfound.2)
  | list => exact related_pure (Likeness.alike_ofList hargs)
  | negation =>
      obtain ⟨a, a', rfl, rfl, ha⟩ | ⟨hsingle, hsingle'⟩ := hsingle
      · exact related_negation ha
      · simp only [Builtin.run, hlength]
        exact related_raise _
  | isEmpty =>
      obtain ⟨a, a', rfl, rfl, ha⟩ | ⟨hsingle, hsingle'⟩ := hsingle
      · refine (related_listOf "null?" ha).bind ?_
        intro items items' hitems
        refine related_pure ?_
        rw [hitems.isEmpty_eq]
        exact Likeness.alike_bool _
      · simp only [Builtin.run, hlength]
        exact related_raise _
  | eval =>
      obtain ⟨a, a', rfl, rfl, ha⟩ | ⟨hsingle, hsingle'⟩ := hsingle
      · exact hcarries (.evaluate ha) hscope
      · simp only [Builtin.run, hlength]
        exact related_raise _
  | display =>
      obtain ⟨a, a', rfl, rfl, ha⟩ | ⟨hsingle, hsingle'⟩ := hsingle
      · exact related_display ha
      · simp only [Builtin.run, hlength]
        exact related_raise _
  | cons =>
      obtain ⟨a, b, a', b', rfl, rfl, ha, hb⟩ | ⟨hpair, hpair'⟩ := hpair
      · exact related_pure (Likeness.alike_ofList (ha.spliced_alike.append hb.spliced_alike))
      · simp only [Builtin.run, hlength]
        exact related_raise _
  | apply =>
      obtain ⟨a, b, a', b', rfl, rfl, ha, hb⟩ | ⟨hpair, hpair'⟩ := hpair
      · simp only [Builtin.run]
        rw [← ha.observed_eq.2.2]
        split
        · refine (related_listOf "apply" hb).bind ?_
          exact fun _ _ hvalues => hcarries (.apply ha hvalues) hscope
        · exact related_textOf_bind ha (related_raise _)
      · simp only [Builtin.run, hlength]
        exact related_raise _
  | newline =>
      cases nodes with
      | nil =>
          cases hargs.eq_nil
          refine (related_write _).bind ?_
          exact fun _ _ _ => related_pure Likeness.alike_nil
      | cons first rest =>
          obtain ⟨first', rest', rfl, -, -⟩ := hargs.exists_cons
          simp only [Builtin.run, hlength]
          exact related_raise _

theorem allAlike_symbols {names : List String} (hnames : ∀ name ∈ names, sim.atom (.symbol name)) :
    sim.AllAlike (names.map .symbol) (names.map .symbol) := by
  induction names with
  | nil => trivial
  | cons name rest ih =>
      refine ⟨⟨sim.token_none, .of_atom (hnames name List.mem_cons_self)⟩, ih ?_⟩
      exact fun other hother => hnames other (List.mem_cons_of_mem _ hother)

theorem related_host (hscope : sim.scope s s') (hargs : sim.AllAlike nodes others)
    {identity : Nat} {title : String} {function : HostFunction}
    (hatom : sim.atom (.primitive (.host identity title function))) :
    sim.Related sim.Alike (function.run s title nodes) (function.run s' title others) := by
  cases function with
  | count =>
      simp only [HostFunction.run, hargs.length_eq]
      exact related_pure (Likeness.alike_number (sim.number_self _))
  | names =>
      apply related_get_bind
      intro world world' hworld
      obtain ⟨hsame, hnames⟩ := sim.listed hworld hscope hatom
      refine .inr ⟨.ok (Likeness.alike_ofList ?_), hworld⟩
      have hleft : ∀ listing : List (String × Node),
          listing.map (fun binding => Node.symbol binding.1) =
            (listing.map Prod.fst).map Node.symbol := by simp
      rw [hleft, hleft, ← hsame]
      exact allAlike_symbols hnames
  | failing => exact related_throw (.failure _)

theorem related_primitive (hcarries : sim.Carries evaluator evaluator') (hscope : sim.scope s s')
    (hargs : sim.AllAlike nodes others) {primitive : Primitive}
    (hatom : sim.atom (.primitive primitive)) :
    sim.Related sim.Alike (primitive.run evaluator s nodes) (primitive.run evaluator' s' others) := by
  cases primitive with
  | builtin function => exact related_builtin hcarries hscope hargs function
  | host identity title function => exact related_host hscope hargs hatom

/-! ## Special forms -/

theorem related_symbolOf (form : String) {node node' : Node} (hnode : sim.Alike node node') :
    sim.Related (fun name name' => name = name' ∧ sim.atom (.symbol name)) (symbolOf form node)
      (symbolOf form node') := by
  unfold symbolOf
  rw [← hnode.observed_eq.2.1]
  split
  next name hname => exact related_pure ⟨rfl, hnode.name_admitted hname⟩
  next => exact related_textOf_bind hnode (related_raiseAt hnode _)

theorem related_symbolsOf (form : String) (hnodes : sim.AllAlike nodes others) :
    sim.Related (fun names names' => names = names' ∧ ∀ name ∈ names, sim.atom (.symbol name))
      (symbolsOf form nodes) (symbolsOf form others) := by
  induction nodes generalizing others with
  | nil =>
      cases hnodes.eq_nil
      exact related_pure ⟨rfl, by simp⟩
  | cons node rest ih =>
      obtain ⟨node', rest', rfl, hnode, hrest⟩ := hnodes.exists_cons
      refine (related_symbolOf form hnode).bind ?_
      rintro name _ ⟨rfl, hname⟩
      refine (ih hrest).bind ?_
      rintro names _ ⟨rfl, hnames⟩
      refine related_pure ⟨rfl, ?_⟩
      intro other hother
      rcases List.mem_cons.mp hother with rfl | hother
      · exact hname
      · exact hnames other hother

theorem related_evaluateAll (hcarries : sim.Carries evaluator evaluator') (hscope : sim.scope s s')
    (hnodes : sim.AllAlike nodes others) :
    sim.Related sim.AllAlike (evaluateAll evaluator s nodes) (evaluateAll evaluator' s' others) := by
  induction nodes generalizing others with
  | nil =>
      cases hnodes.eq_nil
      exact related_pure trivial
  | cons node rest ih =>
      obtain ⟨node', rest', rfl, hnode, hrest⟩ := hnodes.exists_cons
      refine (hcarries (.evaluate hnode) hscope).bind ?_
      intro value value' hvalue
      refine (ih hrest).bind ?_
      exact fun _ _ hvalues => related_pure ⟨hvalue, hvalues⟩

theorem related_evaluateBody (hcarries : sim.Carries evaluator evaluator') (hscope : sim.scope s s')
    {result result' : Node} (hresult : sim.Alike result result')
    (hnodes : sim.AllAlike nodes others) :
    sim.Related sim.Alike (evaluateBody evaluator s result nodes)
      (evaluateBody evaluator' s' result' others) := by
  induction nodes generalizing others result result' with
  | nil =>
      cases hnodes.eq_nil
      exact related_pure hresult
  | cons node rest ih =>
      obtain ⟨node', rest', rfl, hnode, hrest⟩ := hnodes.exists_cons
      refine (hcarries (.evaluate hnode) hscope).bind ?_
      exact fun _ _ hvalue => ih hvalue hrest

/-- Either both of two nodes that are alike are lists of two elements, or neither. -/
theorem pair_or_of_alike {node node' : Node} (hnode : sim.Alike node node') :
    (∃ token token' a b a' b', node = .list token [a, b] ∧ node' = .list token' [a', b'] ∧
        sim.Alike a a' ∧ sim.Alike b b') ∨
      ((∀ token a b, node ≠ .list token [a, b]) ∧ ∀ token a b, node' ≠ .list token [a, b]) := by
  obtain ⟨_, _, _, _, rfl, rfl, -⟩ | ⟨token, token', items, items', rfl, rfl, -, hitems⟩ |
    ⟨_, _, _, _, _, _, _, _, _, rfl, rfl, -⟩ := hnode.cases
  · exact .inr ⟨by simp, by simp⟩
  · obtain ⟨a, b, a', b', rfl, rfl, ha, hb⟩ | ⟨hpair, hpair'⟩ := hitems.pair_or
    · exact .inl ⟨token, token', a, b, a', b', rfl, rfl, ha, hb⟩
    · refine .inr ⟨?_, ?_⟩
      · rintro _ a b ⟨⟩
        exact hpair a b rfl
      · rintro _ a b ⟨⟩
        exact hpair' a b rfl
  · exact .inr ⟨by simp, by simp⟩

theorem related_evaluateBindings (hcarries : sim.Carries evaluator evaluator')
    (hscope : sim.scope s s') (hnodes : sim.AllAlike nodes others) :
    sim.Related sim.BindingsAlike (evaluateBindings evaluator s nodes)
      (evaluateBindings evaluator' s' others) := by
  induction nodes generalizing others with
  | nil =>
      cases hnodes.eq_nil
      exact related_pure .nil
  | cons node rest ih =>
      obtain ⟨node', rest', rfl, hnode, hrest⟩ := hnodes.exists_cons
      obtain ⟨_, _, target, operand, target', operand', rfl, rfl, htarget, hoperand⟩ |
        ⟨hpair, hpair'⟩ := pair_or_of_alike hnode
      · refine (related_symbolOf "let" htarget).bind ?_
        rintro name _ ⟨rfl, hname⟩
        refine (hcarries (.evaluate hoperand) hscope).bind ?_
        intro value value' hvalue
        refine (ih hrest).bind ?_
        exact fun _ _ hbindings => related_pure (.cons ⟨rfl, hname, hvalue⟩ hbindings)
      · rw [evaluateBindings, evaluateBindings]
        · exact related_textOf_bind hnode (related_raiseAt hnode _)
        · exact hpair'
        · exact hpair

theorem related_conditional (hcarries : sim.Carries evaluator evaluator')
    (hscope : sim.scope s s') (hnodes : sim.AllAlike nodes others) :
    sim.Related sim.Alike (SpecialForm.conditional.run evaluator s nodes)
      (SpecialForm.conditional.run evaluator' s' others) := by
  have hlength := hnodes.length_eq
  match nodes, others, hnodes with
  | [condition, branch], [condition', branch'], ⟨hcondition, hbranch, _⟩ =>
    refine (hcarries (.evaluate hcondition) hscope).bind ?_
    intro value value' hvalue
    rw [← hvalue.isFalsy_eq]
    split
    · exact related_pure Likeness.alike_nil
    · exact hcarries (.evaluate hbranch) hscope
  | [condition, branch, alternative], [condition', branch', alternative'],
      ⟨hcondition, hbranch, halternative, _⟩ =>
    refine (hcarries (.evaluate hcondition) hscope).bind ?_
    intro value value' hvalue
    rw [← hvalue.isFalsy_eq]
    split
    · exact hcarries (.evaluate halternative) hscope
    · exact hcarries (.evaluate hbranch) hscope
  | [], [], _ => exact related_raise _
  | [_], [_], _ => exact related_raise _
  | _ :: _ :: _ :: _ :: _, _ :: _ :: _ :: _ :: _, _ =>
    simp only [SpecialForm.run, hlength]
    exact related_raise _

theorem related_definition (hcarries : sim.Carries evaluator evaluator')
    (hscope : sim.scope s s') {target target' operand operand' : Node}
    (htarget : sim.Alike target target') (hoperand : sim.Alike operand operand') :
    sim.Related sim.Alike (SpecialForm.definition.run evaluator s [target, operand])
      (SpecialForm.definition.run evaluator' s' [target', operand']) := by
  refine (related_symbolOf "define" htarget).bind ?_
  rintro name _ ⟨rfl, hname⟩
  refine (hcarries (.evaluate hoperand) hscope).bind ?_
  intro value value' hvalue
  refine related_textOf_bind hvalue ?_
  refine (related_note _).bind fun _ _ _ => ?_
  refine (related_define hscope hname hvalue).bind ?_
  exact fun _ _ _ => related_pure Likeness.alike_nil

theorem related_assignment (hcarries : sim.Carries evaluator evaluator')
    (hscope : sim.scope s s') {target target' operand operand' : Node}
    (htarget : sim.Alike target target') (hoperand : sim.Alike operand operand') :
    sim.Related sim.Alike (SpecialForm.assignment.run evaluator s [target, operand])
      (SpecialForm.assignment.run evaluator' s' [target', operand']) := by
  refine (related_symbolOf "setf!" htarget).bind ?_
  rintro name _ ⟨rfl, hname⟩
  -- the name is looked up before the operand is evaluated, and once more to change it
  refine (related_located htarget (related_lookup hscope hname)).discard.bind fun _ _ _ => ?_
  refine (hcarries (.evaluate hoperand) hscope).bind ?_
  intro value value' hvalue
  refine related_textOf_bind hvalue ?_
  refine (related_note _).bind fun _ _ _ => ?_
  refine (related_located htarget (related_assign hscope hname hvalue)).bind ?_
  exact fun _ _ _ => related_pure hvalue

theorem related_abstraction {parameters parameters' first first' : Node} {rest rest' : List Node}
    (hscope : sim.scope s s') (hparameters : sim.Alike parameters parameters')
    (hbody : sim.AllAlike (first :: rest) (first' :: rest')) :
    sim.Related sim.Alike
      (SpecialForm.abstraction.run evaluator s (parameters :: first :: rest))
      (SpecialForm.abstraction.run evaluator' s' (parameters' :: first' :: rest')) := by
  simp only [SpecialForm.run]
  obtain ⟨hnone, hnone'⟩ | ⟨items, items', hsome, hsome', hitems⟩ := hparameters.items_alike
  · rw [hnone, hnone']
    exact related_textOf_bind hparameters (related_raiseAt hparameters _)
  · rw [hsome, hsome']
    refine (related_symbolsOf "lambda" hitems).bind ?_
    rintro names _ ⟨rfl, hnames⟩
    refine related_freshIdentity.bind ?_
    intro identity identity' hidentity
    exact related_pure ⟨hparameters.token_alike, hidentity, rfl, hnames, hbody,
      sim.home_of_scope hscope⟩

theorem related_binding (hcarries : sim.Carries evaluator evaluator')
    {bindings bindings' first first' : Node} {rest rest' : List Node}
    (hscope : sim.scope s s') (hbindings : sim.Alike bindings bindings')
    (hbody : sim.AllAlike (first :: rest) (first' :: rest')) :
    sim.Related sim.Alike (SpecialForm.binding.run evaluator s (bindings :: first :: rest))
      (SpecialForm.binding.run evaluator' s' (bindings' :: first' :: rest')) := by
  simp only [SpecialForm.run]
  obtain ⟨hnone, hnone'⟩ | ⟨items, items', hsome, hsome', hitems⟩ := hbindings.items_alike
  · rw [hnone, hnone']
    exact related_textOf_bind hbindings (related_raiseAt hbindings _)
  · rw [hsome, hsome']
    refine (related_evaluateBindings hcarries hscope hitems).bind ?_
    intro values values' hvalues
    refine (related_enclose (sim.home_of_scope hscope) hvalues).bind ?_
    exact fun _ _ hinner => related_evaluateBody hcarries hinner Likeness.alike_nil hbody

theorem related_specialForm (hcarries : sim.Carries evaluator evaluator') (hscope : sim.scope s s')
    (hnodes : sim.AllAlike nodes others) (form : SpecialForm) :
    sim.Related sim.Alike (form.run evaluator s nodes) (form.run evaluator' s' others) := by
  have hlength := hnodes.length_eq
  have hsingle := hnodes.single_or
  have hpair := hnodes.pair_or
  have htwo := hnodes.two_or
  cases form with
  | conditional => exact related_conditional hcarries hscope hnodes
  | definition =>
      obtain ⟨a, b, a', b', rfl, rfl, ha, hb⟩ | ⟨hpair, hpair'⟩ := hpair
      · exact related_definition hcarries hscope ha hb
      · simp only [SpecialForm.run, hlength]
        exact related_raise _
  | quotation =>
      obtain ⟨a, a', rfl, rfl, ha⟩ | ⟨hsingle, hsingle'⟩ := hsingle
      · exact related_pure ha
      · simp only [SpecialForm.run, hlength]
        exact related_raise _
  | abstraction =>
      obtain ⟨a, b, rest, a', b', rest', rfl, rfl, ha, hrest⟩ | ⟨htwo, htwo'⟩ := htwo
      · exact related_abstraction hscope ha hrest
      · simp only [SpecialForm.run, hlength]
        exact related_raise _
  | binding =>
      obtain ⟨a, b, rest, a', b', rest', rfl, rfl, ha, hrest⟩ | ⟨htwo, htwo'⟩ := htwo
      · exact related_binding hcarries hscope ha hrest
      · simp only [SpecialForm.run, hlength]
        exact related_raise _
  | assignment =>
      obtain ⟨a, b, a', b', rfl, rfl, ha, hb⟩ | ⟨hpair, hpair'⟩ := hpair
      · exact related_assignment hcarries hscope ha hb
      · simp only [SpecialForm.run, hlength]
        exact related_raise _

/-! ## Steps and runs -/

theorem bindingsAlike_zip {params : List String} (hparams : ∀ name ∈ params, sim.atom (.symbol name))
    (hargs : sim.AllAlike nodes others) :
    sim.BindingsAlike (params.zip nodes) (params.zip others) := by
  induction params generalizing nodes others with
  | nil => exact .nil
  | cons name rest ih =>
      cases nodes with
      | nil =>
          cases hargs.eq_nil
          exact .nil
      | cons node more =>
          obtain ⟨node', more', rfl, hnode, hmore⟩ := hargs.exists_cons
          refine .cons ⟨rfl, hparams name List.mem_cons_self, hnode⟩ (ih ?_ hmore)
          exact fun other hother => hparams other (List.mem_cons_of_mem _ hother)

/-- Calls run in a scope of their own, whatever scope they are made from. -/
theorem related_call (hcarries : sim.Carries evaluator evaluator') {params : List String}
    {body body' : List Node} {home home' : ScopeId}
    (hparams : ∀ name ∈ params, sim.atom (.symbol name)) (hbody : sim.AllAlike body body')
    (hhome : sim.home home home') (hargs : sim.AllAlike nodes others) :
    sim.Related sim.Alike (call evaluator params body home nodes)
      (call evaluator' params body' home' others) := by
  unfold call
  rw [← hargs.length_eq]
  dsimp only
  split
  · exact related_raise _
  split
  · exact related_raise _
  refine (related_enclose hhome (bindingsAlike_zip hparams hargs)).bind ?_
  intro inner inner' hinner
  refine (related_note _).bind fun _ _ _ => ?_
  exact related_evaluateBody hcarries hinner Likeness.alike_nil hbody

theorem related_applyStep (hcarries : sim.Carries evaluator evaluator') (hscope : sim.scope s s')
    {function function' : Node} (hfunction : sim.Alike function function')
    (hargs : sim.AllAlike nodes others) :
    sim.Related sim.Alike (applyStep evaluator function nodes s)
      (applyStep evaluator' function' others s') := by
  have hraise : sim.Related sim.Alike (do raise (.notApplicable (← textOf function)))
      (do raise (.notApplicable (← textOf function'))) :=
    related_textOf_bind hfunction (related_raise _)
  obtain ⟨_, _, a, b, rfl, rfl, -, hatom⟩ | ⟨_, _, _, _, rfl, rfl, -⟩ |
    ⟨_, _, _, _, _, _, _, _, _, rfl, rfl, -, -, hparams, hbody, hhome⟩ := hfunction.cases
  · obtain ⟨_, _, rfl, rfl, -⟩ | ⟨rfl, hadmitted, -⟩ := hatom.cases
    · exact hraise
    · cases a with
      | primitive primitive => exact related_primitive hcarries hscope hargs hadmitted
      | _ => exact hraise
  · exact hraise
  · exact related_call hcarries hparams hbody hhome hargs

theorem related_evaluateList (hcarries : sim.Carries evaluator evaluator')
    (hscope : sim.scope s s') {head head' : Node} (hhead : sim.Alike head head')
    (hnodes : sim.AllAlike nodes others) :
    sim.Related sim.Alike (evaluateList evaluator head nodes s)
      (evaluateList evaluator' head' others s') := by
  unfold evaluateList
  rw [← hhead.observed_eq.2.1]
  split
  next form _ => exact related_specialForm hcarries hscope hnodes form
  next =>
    refine (hcarries (.evaluate hhead) hscope).bind ?_
    intro function function' hfunction
    refine (related_evaluateAll hcarries hscope hnodes).bind ?_
    intro args args' hargs
    rw [← hfunction.observed_eq.2.2]
    split
    · exact hcarries (.apply hfunction hargs) hscope
    · exact related_textOf_bind hhead (related_raiseAt hhead _)

theorem related_evaluateStep (hcarries : sim.Carries evaluator evaluator')
    (hscope : sim.scope s s') {expr expr' : Node} (hexpr : sim.Alike expr expr') :
    sim.Related sim.Alike (evaluateStep evaluator expr s) (evaluateStep evaluator' expr' s') := by
  obtain ⟨_, _, a, b, rfl, rfl, -, hatom⟩ | ⟨_, _, items, items', rfl, rfl, -, hitems⟩ |
    ⟨_, _, _, _, _, _, _, _, _, rfl, rfl, -⟩ := hexpr.cases
  · obtain ⟨_, _, rfl, rfl, -⟩ | ⟨rfl, hadmitted, -⟩ := hatom.cases
    -- numbers evaluate to themselves, whatever decimals stand for them
    · exact related_pure hexpr
    · cases a with
      | symbol name => exact related_located hexpr (related_lookup hscope hadmitted)
      | _ =>
          simp only [evaluateStep]
          split
          · exact related_pure hexpr
          · exact related_raiseAt hexpr _
  · cases items with
    | nil =>
        cases hitems.eq_nil
        exact related_pure hexpr
    | cons head operands =>
        obtain ⟨head', operands', rfl, hhead, hoperands⟩ := hitems.exists_cons
        exact related_located hexpr (related_evaluateList hcarries hscope hhead hoperands)
  · exact related_pure hexpr

/-- A step keeps two runs related if smaller tasks do. -/
theorem step_carries (hcarries : sim.Carries evaluator evaluator') :
    sim.Carries (step evaluator) (step evaluator') := by
  intro task task' s s' htask hscope
  cases htask with
  | evaluate hexpr => exact related_evaluateStep hcarries hscope hexpr
  | apply hfunction hargs => exact related_applyStep hcarries hscope hfunction hargs

/-- Evaluations stay related, however deeply they nest. The two may be allowed
different depths if being exhausted excuses the one with the smaller depth. -/
theorem perform_carries {depth depth' : Nat} (hleft : depth < depth' → sim.leftQuits .exhausted)
    (hright : depth' < depth → sim.rightQuits .exhausted) :
    sim.Carries (perform depth) (perform depth') := by
  -- both depths shrink in step until the smaller one is used up
  induction depth generalizing depth' with
  | zero =>
      intro task task' s s' _ _ world world' hworld
      cases depth' with
      | zero => exact .inr ⟨.error .exhausted, hworld⟩
      | succ depth' => exact .inl (.inl ⟨.exhausted, rfl, hleft (Nat.succ_pos depth')⟩)
  | succ depth ih =>
      cases depth' with
      | zero =>
          intro task task' s s' _ _ world world' hworld
          exact .inl (.inr ⟨.exhausted, rfl, hright (Nat.succ_pos depth)⟩)
      | succ depth' =>
          exact step_carries (ih (fun hlt => hleft (Nat.succ_lt_succ hlt))
            (fun hlt => hright (Nat.succ_lt_succ hlt)))

end Simulation

end Lisplet
