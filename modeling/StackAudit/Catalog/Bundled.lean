import StackAudit.Catalog
import StackAudit.Catalog.Bundled.AToB
import StackAudit.Catalog.Bundled.C
import StackAudit.Catalog.Bundled.DToE
import StackAudit.Catalog.Bundled.FToL
import StackAudit.Catalog.Bundled.MToR
import StackAudit.Catalog.Bundled.S
import StackAudit.Catalog.Bundled.TToX

/-!
# The bundled catalog

The actions of all services that are known without reading a catalog.
-/

namespace StackAudit.Catalog

/-- The services of the bundled catalog, each with lines of privileges between blanks. -/
def bundledServices : List (String × List String) :=
  servicesAToB ++ servicesC ++ servicesDToE ++ servicesFToL
    ++ servicesMToR ++ servicesS ++ servicesTToX

/-- The bundled catalog. -/
def bundled : Catalog :=
  ofServices "2026-10-01"
    (bundledServices.map fun (service, lines) => (service, lines.flatMap (·.splitOn " ")))

end StackAudit.Catalog
