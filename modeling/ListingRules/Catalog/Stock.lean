import ListingRules.Catalog.Stock.Unix
import ListingRules.Catalog.Stock.Vms
import ListingRules.Catalog.Stock.Mainframe
import ListingRules.Catalog.Stock.SmallServer

namespace ListingRules.Stock

def definitions : List ServerTypeDefinition :=
  [unix1, unix2, unix3, unix4, unix5, xbox360, unix6, netware, vms1, vms2, vms3, vms4, netPresenz,
   zVm1, zVm2, zVm3, mvs1, mvs2, mvsPo1, mvsPo2, mvsPo3, mvsPo4, microsoftIis, os2, vxWorks,
   tandem, iSeriesEnglish, iSeriesCzech]

end ListingRules.Stock
