import TunnelConfig.Files.Job

/-!
# Accounts

The home directory of the user that the process runs for, as the system's table of accounts has it.
A line of the table holds an account, its fields with colons between them: the third is the number
of the user, and the sixth the home directory. The status of the process tells the user's number.
-/

namespace TunnelConfig.Files.Account

/-- The number of the user in the status of a process. -/
def user? (status : String) : Option String :=
  (status.splitOn "\n").findSome? fun line =>
    match line.splitOn "\t" with
    | "Uid:" :: user :: _ => some user
    | _ => none

/-- The home directory of a user in a table of accounts. -/
def homeOf? (user table : String) : Option String :=
  (table.splitOn "\n").findSome? fun line =>
    match line.splitOn ":" with
    | _ :: _ :: number :: _ :: _ :: home :: _ => if number = user then some home else none
    | _ => none

/-- The home directory of the user, if the account has one. -/
def home? : Job (Option String) := do
  let status ← readText "/proc/self/status"
  let table ← readText "/etc/passwd"
  return do
    let user ← user? (← status.toOption)
    (homeOf? user (← table.toOption)).filter (! ·.isEmpty)

end TunnelConfig.Files.Account
