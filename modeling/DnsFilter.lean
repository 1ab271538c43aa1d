import DnsFilter.Admin.Router
import DnsFilter.Cache.Delivery
import DnsFilter.Cache.Fifo
import DnsFilter.Cache.Limits
import DnsFilter.Launch
import DnsFilter.Main
import DnsFilter.Pipeline.Limits
import DnsFilter.Pipeline.Overlap
import DnsFilter.Proofs.Admin.Reloading
import DnsFilter.Proofs.Blocklist.Effect
import DnsFilter.Proofs.Blocklist.Lookup
import DnsFilter.Proofs.Cache.Bookkeeping
import DnsFilter.Proofs.Cache.Delivery
import DnsFilter.Proofs.Cache.FirstInFirstOut
import DnsFilter.Proofs.Config.Documents
import DnsFilter.Proofs.Forwarder.StrayDatagrams
import DnsFilter.Proofs.Forwarder.Turns
import DnsFilter.Proofs.Pipeline.Auditing
import DnsFilter.Proofs.Pipeline.Extensions
import DnsFilter.Proofs.Pipeline.Freshness
import DnsFilter.Proofs.Pipeline.Interference
import DnsFilter.Proofs.Pipeline.Keeping
import DnsFilter.Proofs.Pipeline.Purging
import DnsFilter.Proofs.Pipeline.Reach
import DnsFilter.Proofs.Pipeline.Responding
import DnsFilter.Proofs.Pipeline.Retention
import DnsFilter.Proofs.Pipeline.Storing
import DnsFilter.Proofs.Pipeline.Transparency
import DnsFilter.Proofs.Service.Failures
import DnsFilter.Service
