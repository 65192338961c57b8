import FleetReconciler.Text.Blank

/-!
# Names of cloud resources

The name of an instance is the last segment of the path of its URL, trailing slashes aside.
-/

namespace FleetReconciler

/-- The instance name of a URL; none if the URL holds nothing but slashes. -/
def instanceName? (url : String) : Option String :=
  let path := Text.dropEndWhile (· = '/') url.toList
  let name := (path.reverse.takeWhile (· ≠ '/')).reverse
  if name = [] then none else some (String.ofList name)

/-- The full name of a subscription of a project. -/
def subscriptionPath (project subscription : String) : String :=
  "projects/" ++ project ++ "/subscriptions/" ++ subscription

end FleetReconciler
