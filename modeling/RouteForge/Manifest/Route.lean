import RouteForge.Json.Value

/-!
Route trees and the ways to go through them. `walk` visits a forest with a stack of routes still to
visit; `preorder` is the recursive order, a route before its children and children as declared.
-/

namespace RouteForge

structure Route where
  name : String
  path : String
  component : String
  redirect : Option String
  hidden : Option Bool
  alwaysShow : Option Bool
  attributes : Option Json.Members
  children : List Route
  entry : Option Bool

namespace Route

def layoutComponent : String := "Layout"

def missingRedirect : String := "noRedirect"

/-- A layout groups its children and has no component to import. -/
def isLayout (route : Route) : Bool :=
  route.component = layoutComponent

def hasChildren (route : Route) : Bool :=
  !route.children.isEmpty

def effectiveRedirect (route : Route) : String :=
  match route.redirect with
  | some target => if target.isEmpty then missingRedirect else target
  | none => missingRedirect

def isHidden (route : Route) : Bool :=
  route.hidden.getD false

def isEntry (route : Route) : Bool :=
  route.entry.getD false

mutual
def weight : Route → Nat
  | ⟨_, _, _, _, _, _, _, children, _⟩ => 1 + totalWeight children

def totalWeight : List Route → Nat
  | [] => 0
  | route :: rest => weight route + totalWeight rest
end

theorem weight_eq (route : Route) : weight route = 1 + totalWeight route.children := by
  cases route
  simp [weight]

theorem totalWeight_append (first second : List Route) :
    totalWeight (first ++ second) = totalWeight first + totalWeight second := by
  induction first with
  | nil => simp [totalWeight]
  | cons route rest ih => simp [totalWeight, ih, Nat.add_assoc]

/-- The next route of a walk and the stack that it leaves. The top of this stack is its last route. -/
def advance? (stack : List Route) : Option (Route × List Route) :=
  stack.getLast?.map fun route => (route, stack.dropLast ++ route.children.reverse)

/-- All that a walk from a stack visits. The top is in front here: a step takes it off and puts its
children there. -/
def walk : List Route → List Route
  | [] => []
  | route :: stack => route :: walk (route.children ++ stack)
termination_by stack => totalWeight stack
decreasing_by
  simp only [totalWeight, totalWeight_append, weight_eq]
  omega

/-- A forest is walked one tree after the other. -/
def walkAll (routes : List Route) : List Route :=
  routes.flatMap fun route => walk [route]

mutual
def preorder : Route → List Route
  | ⟨name, path, component, redirect, hidden, alwaysShow, attributes, children, entry⟩ =>
      ⟨name, path, component, redirect, hidden, alwaysShow, attributes, children, entry⟩ ::
        preorderAll children

def preorderAll : List Route → List Route
  | [] => []
  | route :: rest => preorder route ++ preorderAll rest
end

end Route

structure Component where
  name : String
  path : String
  deriving DecidableEq, Repr

namespace Component

def ofRoute (route : Route) : Component :=
  ⟨route.name, route.component⟩

def ofRoutes (routes : List Route) : List Component :=
  (routes.filter fun route => !route.isLayout).map ofRoute

/-- The components of whole trees, in the order of a walk. -/
def ofForest (routes : List Route) : List Component :=
  ofRoutes (Route.walkAll routes)

def repeatedNames (components : List Component) : List String :=
  let names := components.map Component.name
  names.eraseDups.filter fun name => decide (1 < names.count name)

end Component

end RouteForge
