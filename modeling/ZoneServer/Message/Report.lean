import ZoneServer.Message.Response

/-!
# Reports on responses

A report shows a response to a reader: one line on its header and one line for each answer, with the
owner, the time to live and the payload in columns.
-/

namespace ZoneServer

/-- The wording of a truth value. -/
def truthText (b : Bool) : String := if b then "true" else "false"

/-- A payload in a report, preceded by its type. -/
def Payload.report : Payload → String
  | .address text => "A " ++ text
  | .mailExchange preference exchange =>
    "MX " ++ toString preference.toNat ++ " " ++ exchange.text
  | .pointer target => "PTR " ++ target.text
  | .canonicalName target => "CNAME " ++ target.text
  | .other typeCode data =>
    "TYPE" ++ toString typeCode.toNat ++ " (" ++ toString data.length ++ " bytes)"

/-- A record in a report: three columns with tabs between them. -/
def Record.report (r : Record) : String :=
  r.owner.text ++ "\t" ++ toString r.ttl.toNat ++ "\t" ++ r.payload.report

/-- A header in a report. -/
def Header.report (h : Header) : String :=
  "id: " ++ toString h.id.toNat ++ ", rcode: " ++ toString h.responseCode.toNat ++
    ", authoritative: " ++ truthText h.authoritative ++ ", truncated: " ++ truthText h.truncated ++
    ", answers: " ++ toString h.answerCount.toNat

/-- The lines of a report, each to be ended by a line feed. -/
def Response.reportLines (r : Response) : List String :=
  r.header.report :: r.answers.map Record.report

/-- The report on a response. -/
def Response.report (r : Response) : String :=
  String.join (r.reportLines.map fun line => line ++ "\n")

end ZoneServer
