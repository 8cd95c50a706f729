import ScriptGlue.OrderedMap
import ScriptGlue.Text.Search

/-!
# Configuration

The tables that decide which types and members reach the script side and how they are named there.
`Config.default` holds the built-in tables.
-/

namespace ScriptGlue

open ScriptGlue.Text

/-- A pattern of type spellings that never reach the script side. -/
structure DeniedType where
  /-- The text looked for. -/
  pattern : String
  /-- Where it is looked for: at the end for `endswith`, anywhere for every other word. -/
  mode : String
  deriving DecidableEq, Repr

/-- The spelling is denied by the pattern. -/
def DeniedType.denies (rule : DeniedType) (spelling : String) : Bool :=
  if rule.mode == "endswith" then endsWith spelling rule.pattern else occursIn rule.pattern spelling

/-- A member that is left out, either every overload of it or one. -/
structure Exclusion where
  /-- The member, as `Class::member`. -/
  member : String
  /-- Texts that must occur in the parameter types, one for each; without them every overload is meant. -/
  parameters : Option (List String)
  deriving DecidableEq, Repr

/-- The member with the given parameter types is left out by the exclusion. -/
def Exclusion.excludes (rule : Exclusion) (member : String) (parameters : List String) : Bool :=
  member == rule.member &&
    match rule.parameters with
    | none => true
    | some expected =>
      parameters.length == expected.length &&
        (expected.zip parameters).all fun (part, whole) => occursIn part whole

/-- The tables of the generator. -/
structure Config where
  /-- Types that are numbers on the script side. -/
  numberTypes : List String
  /-- The class that an element name of a container stands for. -/
  templateSubstitutions : OrderedMap String
  /-- Type spellings that never reach the script side. -/
  deniedTypes : List DeniedType
  /-- Classes owned by reference count. -/
  refcountedBases : List String
  /-- Parts of class names that imply ownership by reference count. -/
  refcountedFragments : List String
  /-- Names of members that imply it for their class. -/
  refcountedMarkers : List String
  /-- Namespaces whose classes are not bound. -/
  deniedNamespaces : List String
  /-- Classes whose header has another name; a value ending in `.h` is the header itself. -/
  headerAliases : OrderedMap String
  /-- Headers of classes for which none is found. -/
  fallbackIncludes : OrderedMap String
  /-- Beginnings of header paths that are preferred, best first. -/
  headerPrefixes : List String
  /-- Members that are left out. -/
  exclusions : List Exclusion
  /-- Classes whose variables are not exposed. -/
  skipPropertyClasses : List String
  /-- Names that a declaration must qualify, with the qualified names. -/
  returnTypeQualifications : OrderedMap String
  /-- Words that are taken out of the return types of functions. -/
  ignoredTypeTokens : List String
  deriving BEq

namespace Config

/-- The built-in tables. -/
def default : Config where
  numberTypes := ["int", "unsigned", "unsigned short", "u32", "u16", "uint", "double", "float",
    "AttributeChange::Type", "ClientLoginState", "entity_id_t", "component_id_t"]
  templateSubstitutions := ⟨[("Component", "IComponent"), ("Asset", "IAsset"),
    ("AssetTransfer", "IAssetTransfer"), ("AssetStorage", "IAssetStorage"), ("AssetBundle", "IAssetBundle")]⟩
  deniedTypes := [⟨"bool *", "contains"⟩, ⟨"float *", "endswith"⟩, ⟨"float3 *", "endswith"⟩,
    ⟨"vec *", "endswith"⟩, ⟨"std::", "contains"⟩, ⟨"char*", "contains"⟩, ⟨"char *", "contains"⟩,
    ⟨"[", "contains"⟩]
  refcountedBases := ["Entity", "IComponent", "IAsset", "IAssetTransfer", "IAssetStorage", "JavaScriptInstance"]
  refcountedFragments := ["JavaScriptInstance", "AssetTransfer", "AssetStorage"]
  refcountedMarkers := ["URHO3D_OBJECT", "COMPONENT_NAME", "ParentEntity", "DiskSource"]
  deniedNamespaces := ["Urho3D", "Ogre", "Tundra::Ogre"]
  headerAliases := ⟨[("AssetReferenceList", "AssetReference"), ("RayQueryResult", "IRenderer.h")]⟩
  fallbackIncludes := ⟨[("Entity", "Entity.h")]⟩
  headerPrefixes := []
  exclusions := [⟨"float4::Orthogonalize", none⟩, ⟨"Plane::Distance", some ["float4"]⟩]
  skipPropertyClasses := ["Frustum"]
  returnTypeQualifications := ⟨[("EntityMap", "Scene::EntityMap"),
    ("ComponentVector", "Entity::ComponentVector"), ("ComponentMap", "Entity::ComponentMap")]⟩
  ignoredTypeTokens := ["CONST_WIN32", "MUST_USE_RESULT"]

instance : Inhabited Config := ⟨default⟩

/-- A member of a class with the given parameter types is left out. -/
def excludes (config : Config) (className member : String) (parameters : List String) : Bool :=
  config.exclusions.any (·.excludes (className ++ "::" ++ member) parameters)

end Config

end ScriptGlue
