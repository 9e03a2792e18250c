import Romanization.Catalog.Basic

/-! A registry keeps the catalog that is in use while the rule files change. A reload puts a whole new
catalog in its place, or none: after a failure the old one stays. The first load is a reload, too. -/

namespace Romanization

structure Registry where
  builtIn : Bool
  folder : Option RulesFolder
  catalog : Catalog

namespace Registry

def ofFolder (builtIn : Bool) (folder : Option RulesFolder) : Registry :=
  ⟨builtIn, folder, Catalog.empty⟩

def write (r : Registry) (name : Text) (entry : Entry) : Registry :=
  { r with folder := r.folder.map (·.write name entry) }

def remove (r : Registry) (name : Text) : Registry :=
  { r with folder := r.folder.map (·.remove name) }

def reload (r : Registry) : Except Error Catalog × Registry :=
  match Catalog.build r.builtIn r.folder with
  | .ok catalog => (.ok catalog, { r with catalog })
  | .error e => (.error e, r)

end Romanization.Registry
