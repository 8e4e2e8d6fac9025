import Groundwork.Github.Client
import Groundwork.Job.Scheduler
import Groundwork.Main
import Groundwork.Proofs.Check.Closing
import Groundwork.Proofs.Check.Context
import Groundwork.Proofs.Report.AtMostOnce
import Groundwork.Proofs.Report.Comment
import Groundwork.Proofs.Report.Order
import Groundwork.Proofs.Report.Overtaken
import Groundwork.Proofs.Trigger.Containment
import Groundwork.Rehearsal.Folder
import Groundwork.Rehearsal.Session
import Groundwork.Proofs.Config.RoundTrip
import Groundwork.Proofs.Job.Name
import Groundwork.Proofs.Job.Record
import Groundwork.Proofs.Job.Admissible
import Groundwork.Proofs.Config.Faults
import Groundwork.Proofs.Bot.Comment
import Groundwork.Proofs.Web.BrokenOff
import Groundwork.Proofs.Report.Apart
import Groundwork.Proofs.Web.Delivery
import Groundwork.Proofs.Web.Api
import Groundwork.Proofs.Chat.Grammar
import Groundwork.Proofs.Path.Resolution
import Groundwork.Proofs.Path.Spelling
import Groundwork.Proofs.Path.Relative
import Groundwork.Proofs.Trigger.Reach
import Groundwork.Proofs.Config.Places
import Groundwork.Proofs.Glob.Readable
import Groundwork.Proofs.Trigger.Anchoring
import Groundwork.Proofs.Image.Portable
import Groundwork.Proofs.Config.Alone
import Groundwork.Proofs.Config.Lookup
import Groundwork.Proofs.Github.Files
import Groundwork.Proofs.Github.CommentsUrl
import Groundwork.Proofs.Repository.Spelling
import Groundwork.Proofs.Url.Routes
import Groundwork.Proofs.Web.Slashes
