/-!
# Help

What the command `raven` says about itself.

## Main definitions

* `CommandLine.help`: what it can be asked.
* `CommandLine.usage`: what it says when its arguments are not in order.
-/

namespace EventFlow

namespace CommandLine

/-- What the command can be asked. -/
def help : String := "\n".intercalate [
  "raven: claim, inspect, acknowledge and produce flow events",
  "",
  "Usage: raven [--config PATH] COMMAND",
  "",
  "  consume [--ack [--filter]] [--timeout DURATION]",
  "      Claim the next unit of work and print its reference.",
  "  get EVENT_ID [--ack-id ACK_ID]",
  "      Print the content and metadata of an event.",
  "  ack ACK_ID EVENT_ID [--content CONTENT] [--meta KEY=VALUE]... [--filter]",
  "      Acknowledge a claimed item.",
  "  produce CONTENT [--meta KEY=VALUE]...",
  "      Publish a new event and print its id.",
  "  config",
  "      Show the effective configuration.",
  "  help [COMMAND]",
  "      Print this text.",
  ""]

/-- What the command says when its arguments are not in order, with the reason if there is one. -/
def usage (reason : Option String) : String :=
  "error: " ++ reason.getD "the arguments are not in order" ++
    "\n\nFor more information, try 'raven --help'.\n"

end CommandLine

end EventFlow
