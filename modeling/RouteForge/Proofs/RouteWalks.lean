import RouteForge.Manifest.Route

/-!
The walk with a stack visits a forest in the recursive order.
-/

namespace RouteForge

namespace Route

theorem preorder_eq (route : Route) : preorder route = route :: preorderAll route.children := by
  cases route
  rfl

theorem preorderAll_append (first second : List Route) :
    preorderAll (first ++ second) = preorderAll first ++ preorderAll second := by
  induction first with
  | nil => simp [preorderAll]
  | cons route rest ih => simp [preorderAll, ih]

/-- The stack is the forest that is still to visit. -/
theorem walk_eq_preorderAll (stack : List Route) : walk stack = preorderAll stack := by
  fun_induction walk stack with
  | case1 => simp [preorderAll]
  | case2 route stack ih =>
      rw [ih, preorderAll_append, preorderAll, preorder_eq]
      simp

theorem walkAll_eq_preorderAll (routes : List Route) : walkAll routes = preorderAll routes := by
  induction routes with
  | nil => simp [walkAll, preorderAll]
  | cons route rest ih =>
      rw [walkAll] at ih
      rw [walkAll, List.flatMap_cons, ih, walk_eq_preorderAll]
      simp [preorderAll]

end Route

namespace Component

theorem names_ofRoutes (routes : List Route) :
    (ofRoutes routes).map Component.name =
      (routes.filter fun route => !route.isLayout).map Route.name := by
  simp [ofRoutes, ofRoute]

theorem ofForest_eq (routes : List Route) : ofForest routes = ofRoutes (Route.preorderAll routes) := by
  rw [ofForest, Route.walkAll_eq_preorderAll]

end Component

end RouteForge
