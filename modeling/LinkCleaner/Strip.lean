import LinkCleaner.Redirector
import LinkCleaner.Result
import LinkCleaner.Tracking

/-!
Cleaning by the built-in lists: at most one redirector is unwrapped, then tracking parameters leave
the query and a fragment that reads like one.
-/

namespace LinkCleaner

/-- The fragment without doomed pairs, if it holds any; `none` inside means that nothing is left. -/
def cleanFragment? (doomed : Text → Bool) (fragment : Text) : Option (Option Text) :=
  if !fragment.contains '=' then none
  else
    let pairs := Form.decode (Text.dropPrefix ['?'] fragment)
    let kept := pairs.filter fun p => !doomed p.1
    if kept.length = pairs.length then none
    else
      let text := Form.encode kept
      some (if text.isEmpty then none else some text)

/-- A URL without doomed pairs, and whether any was taken out. -/
def Url.strip (doomed : Text → Bool) (u : Url) : Url × Bool :=
  let hit := u.keys.any doomed
  let v := if hit then u.without doomed else u
  match v.fragment.bind (cleanFragment? doomed) with
  | none => (v, hit)
  | some fragment => (v.withFragment fragment, true)

/-- What cleaning yields for a URL, or for the one that a hop leads to. -/
def cleanHop (u : Url) (hop : Option (Url × Text)) (o : CleaningOptions) : CleanResult :=
  let (u, source) :=
    match hop with
    | some (v, provider) => (v, some provider)
    | none => (u, none)
  let (v, changed) := u.strip o.removes
  { url := v.serialize, changed := source.isSome || changed, unwrappedFrom := source }

/-- Cleans a URL by the built-in lists. A text that is no URL comes back as it is. -/
def stripTracking (raw : Text) (o : CleaningOptions) : CleanResult :=
  match Url.parse raw with
  | .error _ => .refused raw .invalidUrl
  | .ok u => cleanHop u u.unwrap? o

end LinkCleaner
