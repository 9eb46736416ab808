import TicketReports.Download.Record
import TicketReports.Time.Timed

set_option autoImplicit false

namespace TicketReports

namespace Paging

variable {ε S α : Type}

-- Asking takes time, so the time left bounds the recursion.
def follow (timeUp : ε) (fetch : String → Timed ε S (ResultPage α)) (keep : List α → S → S)
    (bookmark : String) (left : Nat) (s : S) : Except ε Unit × Nat × S :=
  match fetch bookmark left s with
  | (.error error, after, s) => (.error error, after, s)
  | (.ok page, after, s) =>
    let s := keep page.records s
    if page.isLast then (.ok (), after, s)
    else if after < left then follow timeUp fetch keep (page.bookmark.getD "") after s
    else (.error timeUp, 0, s)
termination_by left

def each {β : Type} (chain : β → Timed ε S Unit) : List β → Timed ε S Unit
  | [], left, s => (.ok (), left, s)
  | item :: rest, left, s =>
    match chain item left s with
    | (.error error, left, s) => (.error error, left, s)
    | (.ok (), left, s) => each chain rest left s

end Paging

end TicketReports
