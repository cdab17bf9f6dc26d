import CapsuleLoom.Platform.Android
import CapsuleLoom.Platform.Ios
import CapsuleLoom.Platform.Web

/-!
# The files of every platform

The backend selector: SwiftUI for `ios`, Jetpack Compose for `android`, and React for both `web` and
`desktop`.

## Main definitions

* `Platform.backend`, `Platform.blueprint` : the fragments and the files of a platform.

## References

* HubLab API specification, §4.3 (backend selector and orchestrator).
-/

namespace CapsuleLoom.Platform

/-- The fragments of a platform. -/
def backend : Platform → Backend
  | ios => Ios.backend
  | android => Android.backend
  | web => Web.backend
  | desktop => Web.backend

/-- The files of a platform, for projects that may leave the Android package open. -/
def blueprint {κ : Type} (defaultPackage : String) : Platform → Blueprint κ
  | ios => Ios.blueprint
  | android => Android.blueprint defaultPackage
  | web => Web.blueprint
  | desktop => Web.blueprint

end CapsuleLoom.Platform
