import ProviderBindings.Check.Fields

/-! # Checks across networks

Two networks must not derive the same identifiers, which they do when their names
are equal in upper case; that is an error. Two networks with the same address are
allowed but suspect; that is a warning. Each repetition is reported at the later
network, with the first one that it repeats. Names and addresses that are empty or
no strings are left to the checks of single networks. -/
namespace ProviderBindings

namespace Check

/-- What has been met so far: for every identifier of a provider the index and the
name of the first network that derives it, for every address the index of the
first network that has it. -/
structure Seen where
  names : List (String × Nat × String)
  urls : List (String × Nat)

/-- Nothing met yet. -/
def Seen.nothing : Seen := ⟨[], []⟩

/-- The repetition of a name by the network at `index`, if its name is one, and what
has been met of names after it. -/
def repeatedName (seen : List (String × Nat × String)) (n : Network) (index : Nat) :
    Findings × List (String × Nat × String) :=
  let name := n.nameOrEmpty
  let key := Identifier.storage name
  if name = "" then ([], seen)
  else
    match seen.lookup key with
    | some (first, firstName) =>
      ([n.violation index .error Code.duplicateName .name
        s!"Name collides with {Text.quoted firstName} at networks[{first}] (both derive {key})"],
        seen)
    | none => ([], (key, index, name) :: seen)

/-- The repetition of an address by the network at `index`, if its address is one, and
what has been met of addresses after it. -/
def repeatedUrl (seen : List (String × Nat)) (n : Network) (index : Nat) :
    Findings × List (String × Nat) :=
  let url := n.url.string?.getD ""
  if url = "" then ([], seen)
  else
    match seen.lookup url with
    | some first =>
      ([n.violation index .warning Code.duplicateUrl .url
        s!"Url {Text.quoted url} is also used by networks[{first}]"], seen)
    | none => ([], (url, index) :: seen)

/-- The repetitions among networks of which the first is at `index`, after what has
been met. -/
def repetitionsFrom (seen : Seen) (index : Nat) : List Network → Findings
  | [] => []
  | n :: rest =>
    let (byName, names) := repeatedName seen.names n index
    let (byUrl, urls) := repeatedUrl seen.urls n index
    byName ++ byUrl ++ repetitionsFrom ⟨names, urls⟩ (index + 1) rest

/-- The repetitions among the networks of a manifest. -/
def repetitions (networks : List Network) : Findings := repetitionsFrom .nothing 0 networks

/-- All that is wrong with the networks of a manifest. -/
def all (networks : List Network) : Except Fault Findings :=
  return (← fields networks) ++ repetitions networks

end Check

end ProviderBindings
