import WebLinking.Relation.Basic

/-!
# Registered relations

The relation types of the public registry, and names for those in common use. Whether a
relation is registered is decided without regard to letter case.
-/

namespace WebLinking.Relation

/-- The names in the registry. -/
def registeredNames : List Text :=
  [
    "about", "acl", "alternate", "amphtml", "api-catalog", "appendix", "apple-touch-icon",
    "apple-touch-startup-image", "archives", "author", "blocked-by", "bookmark", "c2pa-manifest",
    "canonical", "chapter", "cite-as", "collection", "compression-dictionary", "contents",
    "convertedfrom", "copyright", "create-form", "current", "deprecation", "describedby",
    "describes", "disclosure", "dns-prefetch", "duplicate", "edit", "edit-form", "edit-media",
    "enclosure", "external", "first", "geofeed", "glossary", "help", "hosts", "hub", "ice-server",
    "icon", "index", "intervalafter", "intervalbefore", "intervalcontains", "intervaldisjoint",
    "intervalduring", "intervalequals", "intervalfinishedby", "intervalfinishes", "intervalin",
    "intervalmeets", "intervalmetby", "intervaloverlappedby", "intervaloverlaps",
    "intervalstartedby", "intervalstarts", "item", "last", "latest-version", "license", "linkset",
    "lrdd", "manifest", "mask-icon", "me", "media-feed", "memento", "micropub", "modulepreload",
    "monitor", "monitor-group", "next", "next-archive", "nofollow", "noopener", "noreferrer",
    "opener", "openid2.local_id", "openid2.provider", "original", "p3pv1", "payment", "pingback",
    "preconnect", "predecessor-version", "prefetch", "preload", "prerender", "prev",
    "prev-archive", "preview", "previous", "privacy-policy", "profile", "publication", "related",
    "replies", "restconf", "ruleinput", "search", "section", "self", "service", "service-desc",
    "service-doc", "service-meta", "sip-trunking-capability", "sponsored", "start", "status",
    "stylesheet", "subsection", "successor-version", "sunset", "tag", "terms-of-service",
    "timegate", "timemap", "type", "ugc", "up", "version-history", "via", "webmention",
    "working-copy", "working-copy-of"
  ].map String.toList

/-- The relations in common use, by the names of their constants. -/
def constants : List (Text × Relation) :=
  [
    ("SELF", "self"), ("NEXT", "next"), ("PREV", "prev"), ("PREVIOUS", "previous"),
    ("FIRST", "first"), ("LAST", "last"), ("ITEM", "item"), ("COLLECTION", "collection"),
    ("UP", "up"), ("RELATED", "related"), ("ALTERNATE", "alternate"),
    ("DESCRIBEDBY", "describedby"), ("EDIT", "edit"), ("EDIT_FORM", "edit-form"),
    ("CREATE_FORM", "create-form"), ("SEARCH", "search"), ("PROFILE", "profile"),
    ("DEPRECATION", "deprecation"), ("SUNSET", "sunset"), ("INDEX", "index"), ("START", "start"),
    ("LICENSE", "license"), ("HELP", "help"), ("ABOUT", "about")
  ].map fun (name, value) => (name.toList, ⟨value.toList⟩)

/-- The resource itself. -/
def self : Relation := ⟨"self".toList⟩

/-- The next page. -/
def next : Relation := ⟨"next".toList⟩

/-- The page before. -/
def prev : Relation := ⟨"prev".toList⟩

/-- The first page. -/
def first : Relation := ⟨"first".toList⟩

/-- The last page. -/
def last : Relation := ⟨"last".toList⟩

/-- A relation is in the registry. -/
def isRegistered (r : Relation) : Bool := registeredNames.any fun name => r.sameAs ⟨name⟩

end WebLinking.Relation

namespace WebLinking.RelationInput

/-- What is given stands for a registered relation. A blank text does not, and is no
fault here. -/
def isKnown : RelationInput → Except Fault Bool
  | .made r => .ok r.isRegistered
  | .raw value =>
    match value with
    | .scalar (.text t) =>
      if t.isBlankText then .ok false else (Relation.of value).map (·.isRegistered)
    | _ => (Relation.of value).map (·.isRegistered)

end WebLinking.RelationInput
