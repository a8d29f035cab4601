import Annex.Server.Usernames

namespace Annex.Server

open Interleaving Sql

/-! Whoever sees a username has been granted it since its owner last deleted it. -/

section Statements

variable {server : UsernameServer} {request : UsernameRequest} {α : Type}
  {continuation : α → UsernameTask (List (String × String))}

end Statements

section Requests

variable {server : UsernameServer}

end Requests

/-! The runs. -/

section Runs

variable {server : UsernameServer}

end Runs

section Sample

/-! A member sets a username and grants it to another. -/

end Sample

end Annex.Server
