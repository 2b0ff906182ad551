import Signpost.Navigation
import Signpost.Reference
import Signpost.Site
import Signpost.Json

/-!
# Values as JSON

How documents, navigations, references and options are written. Keys stand in declaration order, and
a value that is not set is left out. A navigation tree is written in the form of a navigation spec.
-/

namespace Signpost

def optionalField (key : String) (value : Option String) : List (String × Json) :=
  match value with
  | some s => [(key, .str s)]
  | none => []

def listField (key : String) (values : List String) : List (String × Json) :=
  if values.isEmpty then [] else [(key, .arr (values.map .str))]

def Document.toJson (d : Document) : Json :=
  .obj ([("id", .str d.id), ("title", .str d.title)] ++
    optionalField "source_path" (d.source.map (·.text)) ++ listField "links" d.links)

def Unresolved.toJson (u : Unresolved) : Json :=
  match u.origin with
  | .sidebar trail =>
    .obj ([("id", .str u.id)] ++ listField "path" trail ++ [("kind", .str "sidebar")])
  | .link source =>
    .obj [("id", .str u.id), ("kind", .str "markdownLink"), ("source", .str source)]

mutual

def Item.toJson : Item → Json
  | .doc id label => .obj ([("type", .str "doc"), ("id", .str id)] ++ optionalField "label" label)
  | .category label collapsed items =>
    .obj [("type", .str "category"), ("label", .str label), ("collapsed", .bool collapsed),
      ("items", .arr (Item.listToJson items))]

def Item.listToJson : List Item → List Json
  | [] => []
  | item :: items => item.toJson :: Item.listToJson items

end

def Neighbours.toJson (n : Neighbours) : Json :=
  .obj (optionalField "previous" n.previous ++ optionalField "next" n.next)

/-- A navigation as JSON; the neighbours are listed in the order of the ids. -/
def Navigation.toJson (nav : Navigation) : Json :=
  .obj [("items", .arr (Item.listToJson nav.items)), ("order", .arr (nav.order.map .str)),
    ("links", .obj (nav.links.entries.map fun (id, neighbours) => (id, neighbours.toJson)))]

def EffectiveSite.toJson (site : EffectiveSite) : Json :=
  .obj ([("title", .str site.title)] ++ optionalField "tagline" site.tagline ++
    [("url", .str site.url), ("baseUrl", .str site.baseUrl)] ++
    optionalField "organizationName" site.organizationName ++
    optionalField "projectName" site.projectName ++ optionalField "editUrl" site.editUrl ++
    [("brokenLinkPolicy", .str site.brokenLinkPolicy.name),
      ("brokenMarkdownLinkPolicy", .str site.brokenMarkdownLinkPolicy.name)])

end Signpost
