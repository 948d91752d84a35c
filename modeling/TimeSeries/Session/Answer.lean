import TimeSeries.Message.Report
import TimeSeries.Session.Error

/-! What a session makes of the replies to its requests. -/

namespace TimeSeries

inductive Answer where
  | done
  | groups (paths : List Path)
  | series (definitions : List Definition)
  | exists (answer : Bool)
  | points (points : List Point)
  | version (text : String)
  deriving DecidableEq

/-- Each kind of request goes with one kind of response; the counts of deletions are not handed
on. -/
def Answer.ofResponse? : Request → Response → Option Answer
  | .showStorageGroups, response =>
    match response with
    | .storageGroups paths => some (.groups paths)
    | _ => none
  | .showTimeseries _, response =>
    match response with
    | .timeseries definitions => some (.series definitions)
    | _ => none
  | .checkTimeseriesExists _, response =>
    match response with
    | .exists answer => some (.exists answer)
    | _ => none
  | .select .., response =>
    match response with
    | .dataPoints found => some (.points found)
    | _ => none
  | .version, response =>
    match response with
    | .version text => some (.version text)
    | _ => none
  | _, .ok => some .done
  | _, .deleted _ => some .done
  | _, _ => none

def Answer.ofReply (request : Request) : Reply → Except SessionError Answer
  | .answer response =>
    match Answer.ofResponse? request response with
    | some answer => .ok answer
    | none => .error (.internal ("unexpected response " ++ response.report))
  | .refused error => .error (SessionError.ofServer error)
  | .brokenOff => .error .brokenOff

end TimeSeries
