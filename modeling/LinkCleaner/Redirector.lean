import LinkCleaner.Url.Parse

/-!
Built-in redirectors: pages whose only work is to lead on to the URL in one of their parameters.
-/

namespace LinkCleaner

/-- A redirector: where it lives, and the parameters that may hold the target. -/
structure Redirector where
  provider : Text
  params : List Text
  hosts : List Text := []
  hostSuffixes : List Text := []
  path : Option Text := none
  /-- Either the host or the path is enough. -/
  either : Bool := false

namespace Redirector

def hasHost (r : Redirector) (host : Text) : Bool :=
  r.hosts.contains host || r.hostSuffixes.any fun s => s.isSuffixOf host

def hasPath (r : Redirector) (path : Text) : Bool :=
  match r.path with
  | none => true
  | some p => path == p

/-- Whether a host and a path are those of the redirector. -/
def covers (r : Redirector) (host path : Text) : Bool :=
  if r.either then r.hasHost host || r.hasPath path
  else r.hasHost host && r.hasPath path

/-- The first value among the parameters that is not empty, if the redirector covers this host. -/
def targetAt? (r : Redirector) (host : Text) (u : Url) : Option Text :=
  if r.covers host u.path then
    r.params.findSome? fun name => (u.get? name).filter fun value => !value.isEmpty
  else none

def target? (r : Redirector) (u : Url) : Option Text := r.targetAt? u.host u

/-- The redirectors, of which the first that has a target decides. -/
def all : List Redirector :=
  [{ provider := "google".toList
     params := ["url".toList, "q".toList]
     hostSuffixes := ["google.com".toList, "google.com.au".toList]
     path := some "/url".toList },
    { provider := "facebook".toList
      params := ["u".toList]
      hosts := ["l.facebook.com".toList]
      path := some "/l.php".toList
      either := true },
    { provider := "instagram".toList
      params := ["u".toList]
      hostSuffixes := ["instagram.com".toList] }]

/-- The first target among redirectors, and the name of the one that has it. -/
def find? (rs : List Redirector) (u : Url) : Option (Text × Text) :=
  rs.findSome? fun r => (r.target? u).map fun t => (t, r.provider)

/-- The hop to a target. A target that is no URL is no hop. -/
def hop? (found : Option (Text × Text)) : Option (Url × Text) :=
  match found with
  | none => none
  | some (target, provider) => (Url.parse? target).map fun v => (v, provider)

end Redirector

/-- One hop through a redirector: where it leads, and its name. -/
def Url.unwrap? (u : Url) : Option (Url × Text) :=
  Redirector.hop? (Redirector.find? Redirector.all u)

end LinkCleaner
