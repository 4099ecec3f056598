import Mathlib.Data.Set.Card
import RouteForge.Proofs.FlatTables

/-!
A walk step by step. A step takes the top route off a stack and puts its children there, the last one
first; the walk ends when the stack is empty. What it visits are the nodes in pre-order: each address
of the forest once, and in lexicographic order.
-/

namespace RouteForge

namespace Route

/-- From a stack, a walk comes to an end after it has visited some routes. -/
inductive Visits : List Route → List Route → Prop
  | done {stack} : advance? stack = none → Visits stack []
  | step {stack left route visited} : advance? stack = some (route, left) → Visits left visited →
      Visits stack (route :: visited)

theorem advance?_concat (stack : List Route) (route : Route) :
    advance? (stack ++ [route]) = some (route, stack ++ route.children.reverse) := by
  simp [advance?]

theorem eq_concat_of_advance? {stack left : List Route} {route : Route}
    (next : advance? stack = some (route, left)) :
    ∃ below, stack = below ++ [route] ∧ left = below ++ route.children.reverse := by
  obtain ⟨top, isTop, same⟩ := Option.map_eq_some_iff.mp next
  obtain ⟨rfl, rfl⟩ := Prod.mk.inj same
  exact ⟨stack.dropLast, (List.dropLast_append_getLast? top isTop).symm, rfl⟩

theorem visits_walk (stack : List Route) : Visits stack.reverse (walk stack) := by
  fun_induction walk stack with
  | case1 => exact .done rfl
  | case2 route stack ih =>
      rw [List.reverse_append] at ih
      rw [List.reverse_cons]
      exact .step (advance?_concat stack.reverse route) ih

theorem Visits.eq_walk {stack visited : List Route} (visits : Visits stack visited) :
    visited = walk stack.reverse := by
  induction visits with
  | done ended =>
      rw [advance?, Option.map_eq_none_iff, List.getLast?_eq_none_iff] at ended
      rw [ended, List.reverse_nil, walk]
  | step next _ ih =>
      obtain ⟨below, rfl, rfl⟩ := eq_concat_of_advance? next
      rw [ih, List.reverse_append, List.reverse_append, List.reverse_reverse, List.reverse_singleton,
        List.singleton_append, walk]

theorem visits_iff (stack visited : List Route) :
    Visits stack visited ↔ visited = walk stack.reverse := by
  constructor
  · exact Visits.eq_walk
  · rintro rfl
    simpa using visits_walk stack.reverse

theorem preorderAll_eq_flatMap (routes : List Route) : preorderAll routes = routes.flatMap preorder := by
  induction routes with
  | nil => rfl
  | cons route rest ih => rw [preorderAll, ih, List.flatMap_cons]

/-! Addresses. -/

/-- The nodes of a forest with their addresses; the trees are numbered from the first one on. -/
def placed (first : Nat) : List Route → List (List Nat × Route)
  | [] => []
  | route :: rest =>
      ([first], route) :: (placed 0 route.children).map (fun (below, node) => (first :: below, node)) ++
        placed (first + 1) rest
termination_by routes => totalWeight routes
decreasing_by
  all_goals
    simp only [totalWeight, weight_eq]
    omega

theorem map_snd_placed (first : Nat) (routes : List Route) :
    (placed first routes).map Prod.snd = preorderAll routes := by
  fun_induction placed first routes with
  | case1 => rfl
  | case2 first route rest below others =>
      rw [preorderAll, preorder_eq, ← below, ← others]
      simp

theorem nodeAt?_cons_zero (below : List Nat) (route : Route) (rest : List Route) :
    nodeAt? children (0 :: below) (route :: rest) =
      if below = [] then some route else nodeAt? children below route.children := by
  cases below <;> simp [nodeAt?]

theorem nodeAt?_cons_succ (index : Nat) (below : List Nat) (route : Route) (rest : List Route) :
    nodeAt? children ((index + 1) :: below) (route :: rest) =
      nodeAt? children (index :: below) rest := by
  cases below <;> simp [nodeAt?]

theorem mem_placed_iff (first : Nat) (routes : List Route) (address : List Nat) (node : Route) :
    (address, node) ∈ placed first routes ↔
      ∃ index below, address = (first + index) :: below ∧
        nodeAt? children (index :: below) routes = some node := by
  fun_induction placed first routes generalizing address node with
  | case1 => simp [nodeAt?_nil]
  | case2 first route rest inside others =>
      have shifted (index : Nat) : first + 1 + index = first + (index + 1) := by omega
      simp only [List.cons_append, List.mem_cons, List.mem_append, List.mem_map, Prod.mk.injEq,
        Prod.exists, others]
      constructor
      · rintro (⟨rfl, rfl⟩ | ⟨below, _, listed, rfl, rfl⟩ | ⟨index, below, rfl, found⟩)
        · exact ⟨0, [], rfl, rfl⟩
        · obtain ⟨index, deeper, rfl, found⟩ := (inside below _).mp listed
          refine ⟨0, (0 + index) :: deeper, rfl, ?_⟩
          rw [nodeAt?_cons_zero, if_neg (List.cons_ne_nil _ _), Nat.zero_add, found]
        · exact ⟨index + 1, below, by rw [shifted], by rw [nodeAt?_cons_succ, found]⟩
      · rintro ⟨index, below, rfl, found⟩
        cases index with
        | zero =>
            rw [nodeAt?_cons_zero] at found
            match below with
            | [] => exact Or.inl ⟨rfl, (Option.some.inj found).symm⟩
            | next :: deeper =>
                have listed := (inside (next :: deeper) node).mpr
                  ⟨next, deeper, by rw [Nat.zero_add], by simpa using found⟩
                exact Or.inr (Or.inl ⟨next :: deeper, node, listed, rfl, rfl⟩)
        | succ index =>
            rw [nodeAt?_cons_succ] at found
            exact Or.inr (Or.inr ⟨index, below, by rw [shifted], found⟩)

theorem mem_placed_zero_iff (routes : List Route) (address : List Nat) (node : Route) :
    (address, node) ∈ placed 0 routes ↔ nodeAt? children address routes = some node := by
  rw [mem_placed_iff]
  constructor
  · rintro ⟨index, below, rfl, found⟩
    rw [Nat.zero_add, found]
  · intro found
    match address with
    | [] => simp [nodeAt?] at found
    | index :: below => exact ⟨index, below, by rw [Nat.zero_add], found⟩

theorem exists_index_of_mem_placed {first : Nat} {routes : List Route} {address : List Nat}
    (listed : address ∈ (placed first routes).map Prod.fst) :
    ∃ index below, address = (first + index) :: below := by
  obtain ⟨⟨_, node⟩, member, rfl⟩ := List.mem_map.mp listed
  obtain ⟨index, below, same, _⟩ := (mem_placed_iff _ _ _ _).mp member
  exact ⟨index, below, same⟩

theorem placed_sorted (first : Nat) (routes : List Route) :
    ((placed first routes).map Prod.fst).Pairwise (· < ·) := by
  fun_induction placed first routes with
  | case1 => exact List.Pairwise.nil
  | case2 first route rest inside others =>
      have nested : ((placed 0 route.children).map fun (below, node) => (first :: below, node)).map
          Prod.fst = ((placed 0 route.children).map Prod.fst).map (first :: ·) := by
        simp
      -- What stands in the first tree, its root included, comes before the trees that follow.
      have later {below address : List Nat}
          (listed : address ∈ (placed (first + 1) rest).map Prod.fst) : first :: below < address := by
        obtain ⟨index, deeper, rfl⟩ := exists_index_of_mem_placed listed
        exact List.cons_lt_cons_iff.mpr (Or.inl (by omega))
      rw [List.cons_append, List.map_cons, List.map_append, nested, List.pairwise_cons,
        List.pairwise_append]
      refine ⟨fun address listed => ?_, ?_, others, fun address listed next => ?_⟩
      · rcases List.mem_append.mp listed with within | after
        · obtain ⟨below, member, rfl⟩ := List.mem_map.mp within
          obtain ⟨index, deeper, rfl⟩ := exists_index_of_mem_placed member
          exact List.cons_lt_cons_iff.mpr (Or.inr ⟨rfl, List.nil_lt_cons _ _⟩)
        · exact later after
      · rw [List.pairwise_map]
        exact inside.imp fun less => List.cons_lt_cons_iff.mpr (Or.inr ⟨rfl, less⟩)
      · obtain ⟨below, _, rfl⟩ := List.mem_map.mp listed
        exact later

theorem length_filter_preorderAll (routes : List Route) (test : Route → Bool) :
    ((preorderAll routes).filter test).length =
      Set.ncard {address | ∃ node, nodeAt? children address routes = some node ∧ test node} := by
  have distinct : (((placed 0 routes).filter fun place => test place.2).map Prod.fst).Nodup := by
    refine List.Nodup.sublist (List.filter_sublist.map Prod.fst) ?_
    refine List.nodup_iff_pairwise_ne.mpr ((placed_sorted 0 routes).imp ?_)
    rintro address _ less rfl
    exact List.lt_irrefl address less
  have addresses : {address | ∃ node, nodeAt? children address routes = some node ∧ test node} =
      (((placed 0 routes).filter fun place => test place.2).map Prod.fst).toFinset := by
    ext address
    simp [mem_placed_zero_iff]
  rw [addresses, Set.ncard_coe_finset, List.toFinset_card_of_nodup distinct, List.length_map,
    ← map_snd_placed 0 routes, List.filter_map, List.length_map]
  rfl

end Route

namespace Route

/-- A walk of a tree ends, and visits the nodes in pre-order, each address once. So the walk of a module,
which is what the rule on layouts looks at, has the nodes of one tree after the other, and the
components of a forest are those of its nodes, at any depth, that are no layouts. -/
theorem walk_visits_preorder :
    (∀ route : Route,
      preorder route = route :: route.children.flatMap preorder ∧
      (∀ visited, Visits [route] visited ↔ visited = preorder route) ∧
      walk [route] = preorder route ∧
      ∃ places : List (List Nat × Route),
        places.map Prod.snd = preorder route ∧ (places.map Prod.fst).Pairwise (· < ·) ∧
          ∀ address node, (address, node) ∈ places ↔
            nodeAt? children address [route] = some node) ∧
    (∀ module : Module,
      module.walk = module.routes.flatMap preorder ∧
      Rule.emptyLayouts module =
        (module.walk.filter fun route => route.isLayout && !route.hasChildren).map fun route =>
          .emptyLayout module.name route.name) ∧
    ∀ routes : List Route,
      Component.ofForest routes =
        ((routes.flatMap preorder).filter fun route => route.component ≠ "Layout").map
          (fun route => ⟨route.name, route.component⟩) ∧
      (Component.ofForest routes).length =
        Set.ncard {address | ∃ node, nodeAt? children address routes = some node ∧
          node.component ≠ "Layout"} := by
  have ofTree (route : Route) : walk [route] = preorder route := by
    rw [walk_eq_preorderAll, preorderAll_eq_flatMap, List.flatMap_singleton]
  refine ⟨fun route => ⟨?_, fun visited => ?_, ofTree route, placed 0 [route], ?_,
    placed_sorted 0 [route], mem_placed_zero_iff [route]⟩, fun module => ⟨?_, rfl⟩, fun routes => ?_⟩
  · rw [preorder_eq, preorderAll_eq_flatMap]
  · rw [visits_iff, List.reverse_singleton, ofTree]
  · rw [map_snd_placed, preorderAll_eq_flatMap, List.flatMap_singleton]
  · simp only [Module.walk, walkAll, ofTree]
  · have shown : Component.ofForest routes =
        ((preorderAll routes).filter fun route => route.component ≠ "Layout").map
          (fun route => ⟨route.name, route.component⟩) := by
      rw [Component.ofForest_eq]
      simp only [Component.ofRoutes, isLayout, layoutComponent, ne_eq, decide_not]
      rfl
    constructor
    · rw [shown, preorderAll_eq_flatMap]
    · rw [shown, List.length_map, length_filter_preorderAll]
      simp

end Route

end RouteForge
