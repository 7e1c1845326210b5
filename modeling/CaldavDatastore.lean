import CaldavDatastore.Time
import CaldavDatastore.Component
import CaldavDatastore.Tables
import CaldavDatastore.UpdateDatabase
import CaldavDatastore.IndexSpec
import CaldavDatastore.Integrity
import CaldavDatastore.Rebuild
import CaldavDatastore.Failure
import CaldavDatastore.IndexRows
import CaldavDatastore.AttachmentPath
import CaldavDatastore.FileSystem
import CaldavDatastore.Md5
import CaldavDatastore.TimestampText
import CaldavDatastore.AttachmentStore
import CaldavDatastore.AttachmentRuns
import CaldavDatastore.ObjectText
import CaldavDatastore.Datastore
