/-!
# The program

Its name and its version, as it tells them to its users and to the compute API.
-/

namespace FleetReconciler

/-- The name of the program. -/
def programName : String := "gce-backend"

/-- The version of the program. -/
def programVersion : String := "0.1.0"

end FleetReconciler
