/-! # Names of characters: symbols

Punctuation, symbols, and the letters among them.
-/

namespace Assay.Text.CharacterName

def symbolsLines : List String :=
  ["^2000&gqrn&EMrn&gquy&EMuy&THREE-PER-EMuy&FOUR-PER-EMuy&SIX-PER-EMuy&FIGUREuy&rluy&THINuy",
   "&HAIRuy&zwWIDTHuy+NON-JOINER+JOINER&mknm&sknm&jz&NON-BREAKINGjz&FIGUREey&gqey&EMey&jwbt&fxypmt",
   "*nbmt&mhukrunm&sgukrunm&ukLOW-9runm*HIGH-REVERSED-9runm&mhfxrunm&sgfxrunm&fxLOW-9runm",
   "*HIGH-REVERSED-9runm&DAGGER&fxDAGGER&cp&xpcp&ptftLEADER&ybftLEADER&jwgp&HYPHENATIONra&mttn",
   "&qktn&mkEMBEDDING&skEMBEDDING&POP DIRECTIONAL FORMATTING&mkOVERRIDE&skOVERRIDE",
   "&NARROW NO-BREAKuy&PER MILLEuh*wkwwuh&rg&fxrg&xqrg&sdrg*fxrg*xqrg&cw&ukmiatrunm*siatrunm",
   "&REFERENCEnm&fxhbnm&kp&qf&UNDERTIE&dfTIE&cwINSERTIONra&ASTERISM&jzcp&idur&mhvccmzeQUILL",
   "&sgvccmzeQUILL&fxrtnm&rthbnm&hbrtnm&TIRONIANuhET&sdPILCROWuh&cgmlcp*slcp&nbbh&sdtl&CLOSEyf",
   "&ybASTERISKS ALIGNEDyq&dxnwuh&SWUNGey&ksUNDERTIE&FLOWERrlnm&wyftrl&rprg&ibftrl&huftrl&ybftrl",
   "&ibftnm&fwei&TRICOLON&ypibfv&nqnouy&zfJOINER&FUNCTION APPLICATION&INVISIBLExd*tn*qz",
   "^2066&mkISOLATE&skISOLATE&FIRST STRONG ISOLATE&POP DIRECTIONAL ISOLATE",
   "&INHIBIT SYMMETRIC SWAPPING&ACTIVATE SYMMETRIC SWAPPING&INHIBITazhySHAPING&ACTIVATEazhySHAPING",
   "&NATIONALfoSHAPES&NOMINALfoSHAPES&vrzw*mfusmqI^2074*ib*hu*um*to*gi*or*qzuh*nw*gvuh*mhqm*sgqm",
   "*mfusmqN&vmzw*pt*yb*wy*ib*hu*um*to*gi*or*qzuh*nw*gvuh*mhqm*sgqm^2090&mfvmusmqA:E:O:X:te:H:K:L",
   ":M:N:P:S:T^20A0&EURO-CURRENCYuh&duuh&CRUZEIROuh&FRENCH FRANCuh&LIRAuh&MILLuh&NAIRAuh&PESETAuh",
   "&RUPEEuh&WONuh&NEW SHEQELuh&DONGuh&EUROuh&KIPuh&TUGRIKuh&DRACHMAuh&GERMAN PENNYuh&PESOuh",
   "&GUARANIuh&AUSTRALuh&HRYVNIAuh&CEDIuh&LIVRE TOURNOISuh&SPESMILOuh&TENGEuh&INDIAN RUPEEuh",
   "&TURKISH LIRAuh&NORDICnmuh&MANATuh&RUBLEuh&LARIuh&BITCOINuh&SOMuh^20D0&dvmhjjad*sgjjad",
   "*myypmtqe*ucypmtqe*aubdad*drbdad*mhbdad*sgbdad*smqe*drsmqe*ausmqe*wyfvad*ibfvad*ENCLOSINGdm+vc",
   "+fl+dmbp*mhsgbdad*ENCLOSING SCREEN+KEYCAP+UPWARDrcxn*scuvqe*fxypvjqe*ANNUITYvw*xqUNDERDOT",
   "*WIDE BRIDGEad*mlbdqe*myfxuvqe*sljjzebugc*mljjzebugc*mhbdbx*sgbdbx*bhad^2100&ACCOUNTpn",
   "&ADDRESSEDxewnSUBJECT&fzcvC&DEGREE CELSIUS&dcmtvw&CAREpn&CADA UNA&EULER CONSTANT&SCRUPLE",
   "&DEGREE FAHRENHEIT&tgusG*cvH&chcvH&fzcvH&PLANCK CONSTANT+qcybqw&tgcvI&chcvI&tgcvL*usL&L Bbtvw",
   "&fzcvN&NUMEROuh&uwRECORDING COPYRIGHT&tgcvP&fzcvP+Q&tgcvR&chcvR&fzcvR&PRESCRIPTION TAKE",
   "&RESPONSE&SERVICEnm&wjuh&TRADEnmuh&VERSICLE&fzcvZ&OUNCEuh&OHMuh&ksOHMuh&chcvZ&xwitusmqkt",
   "&KELVINuh&ANGSTROMuh&tgcvB&chcvC&ESTIMATEDvw&tgusE*cvE+F&xwcvF&tgcvM*usO&ajvw&BETvw&iovw",
   "&DALETvw&kkSOURCE&spcvQ&FACSIMILEuh&fzusqw+ih*cvih+qw*N-ARY SUMMATION&xwtccvG,L&sdtccvL",
   "&xwtccvY&fzkwcvD+usD,E,I,J&PROPERTYmt&xwaq&PERuh&AKTIESELSKAB&xwusF&vwhxSAMARITAN SOURCE",
   "&VULGARidptSEVENTH,NINTH,TENTH,ws+ybwt+ptFIFTH+ybFIFTHS+wyFIFTHS+ibFIFTHS+ptSIXTH+huSIXTHS",
   "+ptgk+wygl+hugl+togl&idNUMERATORpt&ROMANphpt+yb+wy+ib+hu+um+to+gi+or+wk+go+xz+hn+ptjy+hujy",
   "+ptww&usROMANphpt,yb,wy,ib,hu,um,to,gi,or,wk,go,xz,hn,ptjy,hujy,ptww&ROMANphptwwC D+huww+wkww",
   "+sdptjy&mfusmqsdC&ROMANphumLATEhy+hnEARLYhy,ww+ptjyww&VULGARidzwwt&xwfoyb+wy^2190&mlbd&ykbd",
   "&slbd&gcbd&mhsgbd&yfgabd&oyzbbd*gfbd&uxgfbd*zbbd&mlbdzevj&slbdzevj&mlyzbd&slyzbd&mlybHEADEDbd",
   "&ykybHEADEDbd&slybHEADEDbd&gcybHEADEDbd&mlbdzewb&slbdzewb&mlbdiebt&ykbdiebt&slbdiebt&gcbdiebt",
   "&yfgabdzeBASE&mlbdzejv&slbdzejv&mlbdzena&slbdzena&mhsgyzbd+bdzevj&gczzbd&ykbdzeTIPml:sl",
   "&gcbdzeTIPml:sl&slbdzeefgc&gcbdzeefml&auxktkbd&drxktkbd&oyzbbdxemybt&mlbdxebtqcslbdxebt",
   "&aupvdmbd&drpvdmbd&mljjzebuyk:gc&ykjjzebusl:ml&sljjzebuyk:gc&gcjjzebusl:ml&slbdqcmlbd",
   "&ykbdmlpngcbd&mlbdqcslbd*qibf&ykqibf&slqibf&gcqibf&mljjqcsljj&sljjqcmljj&mlfxbdzevj",
   "&mhsgfxbdzevj&slfxbdzevj&mlfxbd&ykfxbd&slfxbd&gcfxbd&mhsgfxbd&yfgafxbd&oyzbfxbd*gffxbd",
   "&uxgffxbd*zbfxbd&mlxqbd&slxqbd&mlSQUIGGLEbd&slSQUIGGLEbd&ykbdzefxvj&gcbdzefxvj&mlezbd&ykezbd",
   "&slezbd&gcezbd&mlbdxebt&slbdxebt&mlzdbd&ykzdbd&slzdbd&gczdbd&ykzdbdiebt,psPEDESTAL;zejwbt<ypbt",
   "+fxbd:psPEDESTAL&slzdbdieWALL&oyzbbdxeef&uxgfbdxeef&yfgazdbd&sgbdzeusdm&gcbdmlpnykbd&wyslbf",
   "&mlbdzeypvj&slbdzeypvj&mhsgbdzeypvj&mlbdzefxypvj&slbdzefxypvj&mhsgbdzefxypvj&mlOPEN-HEADEDbd",
   "&slOPEN-HEADEDbd&mhsgOPEN-HEADEDbd&hxALL&COMPLEMENT&qofn&THERE EXISTS*DOESozEXIST&EMPTY SET",
   "&INCREMENT&NABLA&gnpn&ozargnpn&usgnpn&ecAS MEMBER&DOESozCONTAIN AS MEMBER&usecAS MEMBER",
   "&grpnPROOF&N-ARYrh*COPRODUCT*SUMMATION&nwuh&MINUS-OR-PLUSuh&ftqz&frur&SETnw&bhpw&smpw&cppw",
   "&vcROOT&CUBE ROOT&FOURTH ROOT&PROPORTIONALxe&kj&sgat&at&MEASUREDat&SPHERICALat&DIVIDES",
   "&DOESozDIVIDE&qlxe&ozqlxe&mxas*py&kq&ye&ko&fxko&xqko&CONTOURko&SURFACEko&VOLUMEko&drko",
   "*CONTOURko&auCONTOURko&THEREFORE&BECAUSE&RATIO&PROPORTION&ftnw&EXCESS&GEOMETRIC PROPORTION",
   "&HOMOTHETIC&xcpw&sdxc&ksLAZY S&SINEyz&WREATHrh&ozxc&nwxc&ASYMPTOTICALLYguxe",
   "&ozASYMPTOTICALLYguxe&ayguxe*BUTozACTUALLYguxe&NEITHERayNOR ACTUALLYguxe&alguxe&ozalguxe",
   "&algupyguxe&xqxc&ALLguxe&gyxe&GEOMETRICALLYgyxe&DIFFERENCEcc&APPROACHESwnLIMIT",
   "&GEOMETRICALLYguxe&ayguxepywnIMAGEpn&IMAGEpnpyayguxe&dugv&gvdu&smkfguxe*guxe&CORRESPONDSxe",
   "&ESTIMATES&EQUIANGULARxe&vfgv&feguxe&guxeBY DEFINITION&MEASURED BY&QUESTIONEDguxe&ozguxe",
   "&IDENTICALxe&ozIDENTICALxe&STRICTLYgyxe&mppyguxe&ispyguxe&mpqcguxe&isqcguxe&mpBUTozguxe",
   "&isBUTozguxe&MUCHmp*is&cc&ozgyxe*mp*is&NEITHERmpNORguxe*isNORguxe&mppygyxe&ispygyxe",
   "&NEITHERmpNORgyxe*isNORgyxe&mppyis&ispymp&NEITHERmpNORis*isNORmp&re&vq&repyguxe&vqpyguxe",
   "&repygyxe&vqpygyxe&DOESozPRECEDE+SUCCEED&vnpn&vspn&ozAvnpn+vspn&vnpnpyguxe&vspnpyguxe",
   "&NEITHER AvnpnNORguxe+vspnNORguxe&vnpnzeozguxe&vspnzeozguxe&MULTISET*oh*ye&vcIMAGEpn",
   "*ORIGINALpn*IMAGEpnpyguxe*ORIGINALpnpyguxe*CAP*CUP&dnqz*nw*xd*frur*ftpw*smpw*bhpw*gv*ey&vdqz",
   "*nw*xd*ftpw&sgvz&mhvz&gavz&yfvz&ASSERTION&MODELS&TRUE&FORCES&xqypbtsgxx&fxypbtfxsgxx",
   "&DOESozPROVE&ozTRUE&DOESozFORCE&NEGATEDfxypbtfxsgxx&reUNDER RELATION&vqUNDER RELATION&oxvkpn",
   "&ecASoxvk&oxvkpnpyguxe&ecASoxvkpyguxe&ORIGINALpn&IMAGEpn&MULTIMAP&HERMITIAN CONJUGATE MATRIX",
   "&INTERCALATE&XOR&NAND&NOR&sgatzeARC*xn&N-ARYmxas+py*kq*ye&flpw&ftpw&vfpw&frxd&BOWTIE",
   "&mhoxFACTORtmrh&sgoxFACTORtmrh&mhtmrh&sgtmrh&sdxcgv&eomxpy+as&fxvn*vs*kq*ye&PITCHFORK&guasqlxe",
   "&mpzeft&iszeft&yrMUCHmp+is&mpguxepyis&isguxepymp&guxepymp,is,re,vq&DOESozPRECEDEpygu",
   "+SUCCEEDpygu&ozvcIMAGEpnpyguxe+ORIGINALpnpyguxe&vcIMAGEpnpyozguxe*ORIGINALpnpyozguxe",
   "&mpBUTozgyxe&isBUTozgyxe&reBUTozgyxe&vqBUTozgyxe&ozoxvkpn&DOESozCONTAIN ASoxvk&ozoxvkpnpyguxe",
   "&DOESozCONTAIN ASoxvkpygu&ypgp&MIDLINEjwgp&yfsgfigp&gasgfigp&gnpnzemyjwvj,ypbtATgrpnjwvj",
   "&usgnpnzeypbtATgrpnjwvj&gnpnzeftad,qd&usgnpnzeqd&gnpnzeyd,ybjwSTROKES&eczemyjwvj",
   "+ypbtATgrpnjwvj&useczeypbtATgrpnjwvj&eczeqd&useczeqd&ZpaBAG MEMBERSHIP&DIAMETERuh&ELECTRICbd",
   "&HOUSE&yfbe&gabe&PROJECTIVE&PERSPECTIVE&WAVYmt&mhda&sgda&mhhw&sghw&cksgCROP*mhCROP&xksgCROP",
   "*mhCROP&sdozuh&vcnd&ARC&SEGMENT&SECTOR&wjRECORDER&POSITIONki&VIEWDATAvc&PLACEpnINTERESTuh",
   "&xwozuh&WATCH&HOURGLASS&xkmhef*sgef&ckmhef*sgef&xkiyko&ckiyko&FROWN&SMILE&yfbeccybjwBARS",
   "&OPTION KEY&ERASExewnsg&XkfArxcl&KEYBOARD&miatcm&siatcm&ERASExewnmh&BENZENEsm&CYLINDRICITY",
   "&ALL AROUND-PROFILE&SYMMETRY&TOTAL RUNOUT&DIMENSION ORIGIN&CONICAL TAPER&SLOPE&COUNTERBORE",
   "&COUNTERSINK&APL FUNCTIONALvwI-BEAM,SQUISHrn,rngu:DIVIDE:fl:JOT:dm,dmSTILE:JOT,urbt,bpbt,rnur",
   ":bp:mp:is,mlVANE,slVANE,rnmlbd:slbd,dmbp,gavzyd,feSTILE,rngacw:fe,gavzJOT,ykVANE,rnykbd,yfvzqd",
   ",DEL STILE,rnyfcw:DEL,yfvzJOT,gcVANE,rngcbd,QUOTEyd,feyd,flyd,JOTyd,dmyd,yfSHOE JOT,QUOTErn",
   ",dmvf,rndu,yfvzfh,DELfh,vffh,JOTfh,dmfh,gaSHOE STILE,mhSHOE STILE,xcfh,isfh,dwbt,DELxc,ZILDE",
   ",STILExc,tlyd,rnozgu:rt,gacwxc,yfcwxc,kt,se,pq,anyd,gtyd,ktyd,pqyd,an&ozdinm&sgatzegczzbd",
   "&SHOULDEREDpvcl&BELLvw&ypmtzentft&INSERTIONvw&CONTINUOUS UNDERLINEvw&DISCONTINUOUS UNDERLINEvw",
   "&EMPHASISvw&COMPOSITIONvw&zdvczedcypmt&ENTERvw&ALTERNATIVE KEYvw&HELMvw&dnjwbtzeNOTCH*xnga",
   "&BROKENdmzeNORTHWESTbd&UNDOvw&MONOSTABLEvw&HYSTERESISvw&OPEN-CIRCUIT-OUTPUT H-TYPEvw*L-TYPEvw",
   "&PASSIVE-PULL-DOWN-OUTPUTvw&PASSIVE-PULL-UP-OUTPUTvw&DIRECT CURRENTvwhyyb&SOFTWARE-FUNCTIONvw",
   "&APL FUNCTIONALvwrn&DECIMALtnKEYvw&PREVIOUS PAGE&NEXT PAGE&PRINT SCREENvw&CLEAR SCREENvw",
   "&mhqmyijv+hd+ncjv&sgqmyijv+hd+ncjv&mhvccmyief,hd,ncef&sgvccmyief,hd,ncef&mheocmyijv,ntPIECE",
   ",ncjv&eocmhd&sgeocmyijv,ntPIECE,ncjv&kohd&jwmthd&yimhpyncsgeocmti*sgpyncmheocmti&SUMMATIONxk",
   "*ck&xkvccm&ckvccm,qcxkvccm&RADICALvwck&mhypclmt&sgypclmt&jwSCAN LINE-1+LINE-3+LINE-7+LINE-9",
   "&DENTISTRYvwmsypasxksg;cksg:zedm,gaasjwzedm,yfasjwzedm,ypzexn,gaasjwzexn,yfasjwzexn,ypasyz",
   ",gaasjwzeyz,yfasjwzeyz,gaasjw,yfasjw,ypasxkmh;ckmh&vcFOOT&RETURNvw&EJECTvw&ypmthd&METRICALcn",
   "*myqcuc*ucqcmy*myqcybSHORTS*ybSHORTSqcmy,JOINED*TRISEME*TETRASEME*PENTASEME&geGROUND&FUSE&xkqm",
   "&ckqm&xkeocm&ckeocm&xkxltzcm&ckxltzcm&zdTRAPEZIUM&BENZENEsmzedm&STRAIGHTNESS&FLATNESS",
   "&AC CURRENT&ELECTRICALkq&DECIMAL EXPONENTvw&cgsifxxn*mifxxn*ygfxxn*gbfxxn*sifxxnzeypbt",
   "*mifxxnzeypbt*sixnzefxypbt&ALARM CLOCK&STOPWATCH&TIMER CLOCK&HOURGLASSzeFLOWING SAND&cgnqmixn",
   "+sixn+ygxn+gbxn&fxypbt&cgvchxvh*dmhxRECORD&POWERvw*ON-OFFvw*psvw*SLEEPvw&OBSERVER EYEvw",
   "&vwhxNULL+STARTpnHEADING:TEXT+grpnTEXT:xm+ENQUIRY+ACKNOWLEDGE+BELL+BACKSPACE+jwvy+mtFEED+ypvy",
   "+hyFEED+CARRIAGE RETURN+SHIFT OUT,kf+DATA LINK ESCAPE+DEVICEedpt:yb:wy:ib+omACKNOWLEDGE",
   "+SYNCHRONOUS IDLE+grpnxmci+CANCEL+grpnnq+SUBSTITUTE+ESCAPE+FILEtn+GROUPtn+RECORDtn+UNITtn+uy",
   "+DELETE&BLANKvw&pvcl&vwhxNEWLINE+DELETEhyyb+SUBSTITUTEhyyb^2440&OCRjv*CHAIR*FORK*ksFORK",
   "*BELT BUCKLE*BOW TIE*BRANCH BANK IDENTIFICATION*AMOUNTpndi*ey*CUSTOMER ACCOUNTpg*fxbp",
   "^2460&dnfopt+yb+wy+ib+hu+um+to+gi+or*pgwk+go+xz+wu+ic+hm+un+tp+gj+os+ya&qnfopt+yb+wy+ib+hu+um",
   "+to+gi+or*pgwk+go+xz+wu+ic+hm+un+tp+gj+os+ya&foptifvh*ybifvh*wyifvh*ibifvh*huifvh*umifvh",
   "*toifvh*giifvh*orifvh&pgwkifvh*goifvh*xzifvh*wuifvh*icifvh*hmifvh*unifvh*tpifvh*gjifvh*osifvh",
   "*yaifvh&qnmfusmqA:B:C:D:E:F:G:H:I:J:K:L:M:N:O:P:Q:R:S:T:U:V:W:X:Y:Z&dnmfcvmqA:B:C:D:E:F:G:H:I",
   ":J:K:L:M:N:O:P:Q:R:S:T:U:V:W:X:Y:Z+usmqA:B:C:D:E:F:G:H:I:J:K:L:M:N:O:P:Q:R:S:T:U:V:W:X:Y:Z",
   "*fozw&omdnpggo,xz,wu,ic,hm,un,tp,gj,os,ya&fxdnfopt,yb,wy,ib,hu,um,to,gi,or+pgwk&omdnfozw",
   "&clDRAWINGSmsjw+jojw+msyp+joyp+msxqeyjw+joxqeyjw+msxqeyyp+joxqeyyp+msrpeyjw+jorpeyjw+msrpeyyp",
   "+jorpeyyp+msgaassg+gamsassgjo,joassgms+jogaassg+msgaasmh+gamsasmhjo,joasmhms+jogaasmh+msyfassg",
   "+yfmsassgjo,joassgms+joyfassg+msyfasmh+yfmsasmhjo,joasmhms+joyfasmh+msypassg+ypmsassgjo",
   "+yfjoassggams+gajoassgyfms+ypjoassgms+gamsassgyfjo+yfmsassggajo+joypassg+msypasmh+ypmsasmhjo",
   "+yfjoasmhgams+gajoasmhyfms+ypjoasmhms+gamsasmhyfjo+yfmsasmhgajo+joypasmh+msgaasjw+mhjoassggams",
   "+sgjoasmhgams+gamsasjwjo,joasjwms+sgmsasmhgajo+mhmsassggajo+jogaasjw+msyfasjw+mhjoassgyfms",
   "+sgjoasmhyfms+yfmsasjwjo,joasjwms+sgmsasmhyfjo+mhmsassgyfjo+joyfasjw+msypasjw+mhjoassgypms",
   "+sgjoasmhypms+ypmsasjwjo+yfjoasgajwms+gajoasyfjwms+ypjoasjwms+mhyfjoassggams+sgyfjoasmhgams",
   "+mhgajoassgyfms+sggajoasmhyfms+gamsasyfjwjo+yfmsasgajwjo+sgmsasmhypjo+mhmsassgypjo+joypasjw",
   "+msfxeyjw+jofxeyjw+msfxeyyp+jofxeyyp+fxjw,yp+gaukassgfx,fxassguk+fxgaassg+gaukasmhfx,fxasmhuk",
   "+fxgaasmh+yfukassgfx,fxassguk+fxyfassg+yfukasmhfx,fxasmhuk+fxyfasmh+ypukassgfx,fxassguk",
   "+fxypassg+ypukasmhfx,fxasmhuk+fxypasmh+gaukasjwfx,fxasjwuk+fxgaasjw+yfukasjwfx,fxasjwuk",
   "+fxyfasjw+ypukasjwfx,fxasjwuk+fxypasjw+msARCgaassg<mh:yfasmh<sg,fiyisgxencmh;mhxencsg:ei,mh,yf",
   ",sg,ga+jomh,yf,sg,ga+msmhasjosg,yfasjoga+jomhasmssg,yfasmsga&yiiyci&ncptgkci+rqci*wyglci*iyci",
   "*huglci*wyrrci*toglci&ifci&mhtoglci*wyrrci*huglci*iyci*wyglci*ptrqci+gkci&sgiyci&mstt&nqtt",
   "&DARKtt&yiptgkci&sgptgkci&roncmh+sg*yimh,asncmhasncsg;sg:yisgasncmh>sg+sg,asncmh<asncsg&cgvc",
   "&zdvc+zestCORNERS+ebcgusvc&vczejwho+ypho+ORTHOGONAL CROSSHATCHho+yimhxencsgho,sgxencmhho",
   "+fiCROSSHATCHho&cgusvc&zdusvc&cgrx&zdrx&cgyprx&zdyprx&cgPARALLELOGRAM&zdPARALLELOGRAM&cgygxn",
   "&zdygxn&cgygusxn&zdygusxn&cgsixn&zdsixn&cgsiusxn&zdsiusxn&cgsiPOINTER&zdsiPOINTER&cggbxn",
   "&zdgbxn&cggbusxn&zdgbusxn&cgmixn&zdmixn&cgmiusxn&zdmiusxn&cgmiPOINTER&zdmiPOINTER&cgfl&zdfl",
   "+ebcgusfl&FISHEYE&nd&zddm&fwdm&dmzeypho&BULLSEYE&cgdm&dmzemhiycg+sgiycg+nciycg+yiiycg,sgrocg",
   "+ALL BUTyimhrocg&mhiycgdm&sgiycgdm&krcp*zddm&yiiykrzddm&nciykrzddm&yimhroCIRCULAR ARC",
   "*sgroCIRCULAR ARC&ncsgroCIRCULAR ARC*mhroCIRCULAR ARC&yiiydm&nciydm&cgncsgxn+mhxn*yimhxn+sgxn",
   "&zdcp&vczemhiycg+sgiycg+yimhfiiycg+ncsgfiiycg&zdvczeypBISECTINGmt*ygxnzeft&ygxnzemhiycg,sgiycg",
   "&mddm&zdvczeyimhro,ncmhro:sgro,yisgro*dmzeyimhro,ncmhro:sgro,yisgro&yimhxn*sgxn&ncmhxn&zdnqvc",
   "&cgnqvc&zdnqusvc&cgnqusvc&ncsgxn&cgSUNzeRAYS&CLOUD&UMBRELLA&SNOWMAN&COMET&cgvf&zdvf&LIGHTNING",
   "&THUNDERSTORM&SUN&ASCENDING NODE&DESCENDING NODE&CONJUNCTION&OPPOSITION&cgwj&zdwj&BALLOTcl",
   "+zedi,X&ta&UMBRELLAzeRAIN DROPS&HOT BEVERAGE&zdSHOGI PIECE&cgSHOGI PIECE&SHAMROCK",
   "&sdspFLORALjmcp&cgmhrckh*sgrckh&zdmhrckh*yfrckh*sgrckh*garckh&SKULLasCROSSBONES&CAUTIONuh",
   "&RADIOACTIVEuh&BIOHAZARDuh&CADUCEUS&ANKH&ORTHODOXei&dkse&eipnLORRAINE+JERUSALEM&vfaseg&FARSIvw",
   "&ADI SHAKTI&HAMMERasSICKLE&PEACEvw&YINzk&TRIGRAMhxHEAVEN+LAKE+FIRE+THUNDER+WIND+yy+oa+ge",
   "&WHEELpnDHARMA&zdFROWNINGhh*uthh&cguthh&zdSUNzeRAYS&FIRSTrqnz&LASTrqnz&MERCURY&FEMALEuh&ge",
   "&MALEuh&JUPITER&SATURN&URANUS&NEPTUNE&PLUTO&ARIES&TAURUS&GEMINI&CANCER&LEO&VIRGO&LIBRA",
   "&SCORPIUS&SAGITTARIUS&CAPRICORN&AQUARIUS&PISCES&zddjlr+rs+so+cf+lu+qp&cgdjlr+rs+so+cf+lu+qp",
   "*SPADE SUIT&zdjmSUIT*flSUIT&cgCLUB SUIT&zdSPADE SUIT&cgjmSUIT*flSUIT&zdCLUB SUIT&HOT SPRINGS",
   "&rqpc&gkpc&BEAMEDgkNOTES*uoNOTES&MUSIC FLATuh*NATURALuh*SHARPuh&zbSYRIACei&gfSYRIACei",
   "&UNIVERSAL RECYCLINGvw&RECYCLINGvwhxTYPE-1qy,TYPE-2qy,TYPE-3qy,TYPE-4qy,TYPE-5qy,TYPE-6qy",
   ",TYPE-7qy,GENERIC MATERIALS&cgUNIVERSAL RECYCLINGvw&RECYCLED PAPERvw",
   "&PARTIALLY-RECYCLED PAPERvw&PERMANENT PAPERuh&WHEELCHAIRvw&DIE FACE-1*FACE-2*FACE-3*FACE-4",
   "*FACE-5*FACE-6&zddmzeftsg,ybfv&cgdmzezdftsg,ybzdfv&nyhxzk+YIN&DIGRAMhxGREATERzk+LESSER YIN,zk",
   "+GREATER YIN&zdhv&cghv&HAMMERasPICK&ANCHOR&ejSWORDS&STAFFpnAESCULAPIUS&SCALES&ALEMBIC&FLOWER",
   "&GEAR&STAFFpnHERMES&ATOMvw&FLEUR-DE-LIS&qbzdvf&wyLINES CONVERGINGsg,mh&WARNINGuh&jrVOLTAGEuh",
   "&DOUBLED FEMALEuh*MALEuh&INTERLOCKED FEMALEasMALEuh&MALEasFEMALEuh*zevjuh,asMALEasFEMALEuh",
   "&ypMALEzevjuh&jwMALEzevjuh&nqzddm*cgdm*uszddm&MARRIAGEvw&DIVORCEvw&UNMARRIED PARTNERSHIPvw",
   "&COFFIN&FUNERAL URN&NEUTER&CERES&PALLAS&JUNO&VESTA&CHIRON&cgnzLILITH&SEXTILE&SEMISEXTILE",
   "&QUINCUNX&SESQUIQUADRATE&SOCCERbr&BASEBALL&vdKEY&zdDRAUGHTSnl+lr&cgDRAUGHTSnl+lr",
   "&SNOWMAN WITHOUT SNOW&SUN BEHIND CLOUD&RAIN&cgSNOWMAN&THUNDER CLOUDasRAIN&xwzdSHOGI PIECE",
   "*cgSHOGI PIECE&zdflkfvc&elLANES&DISABLED CAR&OPHIUCHUS&PICK&CAR SLIDING&HELMETzezdei&dnelLANES",
   "&CHAINS&ovENTRY&aoONE-WAYmhWAY TRAFFIC&cgTWO-WAYmhWAY TRAFFIC&zdTWO-WAYmhWAY TRAFFIC",
   "&cgmhLANE MERGE&zdmhLANE MERGE&DRIVE SLOWuh&jozdgbxn&mhdsENTRY&vdta&hifikfzddmkfcgvc&cgTRUCK",
   "&RESTRICTEDmhENTRY-1+ENTRY-2&ASTRONOMICALvwhxURANUS&jodmzevjasybfvad&PENTAGRAM",
   "&RIGHT-HANDED INTERLACED PENTAGRAM&LEFT-HANDED INTERLACED PENTAGRAM&ksPENTAGRAM&cgeipsSHIELD",
   "&SHINTO SHRINE&CHURCH&CASTLE&HISTORIC SITE&GEAR WITHOUT HUB*zeHANDLES&MAPvwhxLIGHTHOUSE&oa",
   "&UMBRELLApsGROUND&FOUNTAIN&hvkfHOLE&FERRY&SAILBOAT&vcibCORNERS&SKIER&ICE SKATE&qszebr&TENT",
   "&laBANKvw&HEADSTONE GRAVEYARDvw&FUEL PUMP&CUPpscgvc&zdhvzejwntcgSTRIPE&cgSAFETYtf&yiBLADEtf",
   "&cgtf&ncBLADEtf&zdtf*jodinm&wjLOCATIONuh&TAPE DRIVE&ai&gs&rwFIST*ja&VICTORYja&WRITINGja",
   "&ncsgPENCIL&PENCIL&yisgPENCIL&zdNIB&cgNIB&dinm&jodinm&ohX&joohX&BALLOT X&joBALLOT X&qbitei",
   "&joitei&pvdcei&jopvdcei&mfei&tuzdmfei&qbmfei&MALTESEei&vfpnDAVID&ibwgbh*BALLOON-SPOKEDbh",
   "&joibBALLOON-SPOKEDbh&ibCLUB-SPOKEDbh&cgibrbvf&zdibrbvf&SPARKLES&STRESSqbzdvf&dnzdvf&pvdccgvf",
   "&cgdczdvf&qbcgvf&joqbcgvf&qxvf&tuzdvf&jobh&pvdcbh&givabh*rbcgvf+qxvf&umrbcgvf",
   "&girbRECTILINEARcgvf&jogirbRECTILINEARcgvf&xzrbcgvf&unrbbh&wgbh&pvdcwgbh&jowgbh",
   "&umPETALLEDcgaszdFLORETTE&cgFLORETTE&zdFLORETTE&giPETALLEDqbcgFLORETTE&dnpvdcgirbvf&jowgqxbh",
   "&SNOWFLAKE&TIGHT TRIFOLIATE SNOWFLAKE&joCHEVRON SNOWFLAKE&SPARKLE&joSPARKLE&BALLOON-SPOKEDbh",
   "&giwgPROPELLERbh&jogiwgPROPELLERbh&einm&tuzddm&omvdeinm&ncsgDROP-SHADOWEDzdvc",
   "&yisgDROP-SHADOWEDzdvc&ncsgtuzdvc&yisgtuzdvc&cgrtnmqa&zdrtnmqa*hbnmqa&cgflnwzdX&johbnmvw",
   "&msypbt&nqypbt&joypbt*ukxwdwrunmqa+dwrunmqa*fxxwdwrunmqa+dwrunmqa*nbukdwrunmqa+fxdwrunmqa",
   "&eqSTEMqkuhqa&johbnmqa*jmhbnmqa*cgjm&spjocgjmcp&FLORALjm&spFLORALjmcp&nqmhqmqa*sgqmqa",
   "*FLATTENEDmhqmqa+sgqmqa*miatcmqa*siatcmqa&jomiatrunmqa*siatrunmqa*miatcmqa*siatcmqa",
   "&msmhxltzcmqa*sgxltzcmqa&nqmheocmqa*sgeocmqa&DINGBATomdnfopt:yb:wy:ib:hu:um:to:gi:or,pgwk",
   "*dntcfopt:yb:wy:ib:hu:um:to:gi:or,pgwk*omdntcfopt;yb;wy;ib;hu;um;to;gi;or:pgwk",
   "&joWIDE-HEADEDslbd*qzuh*nwuh*fruh*uxgfbd*slbd*oygfbd&DRAFTINGraslbd&joROUND-TIPPEDslbd&xoslbd",
   "&joxoslbd&ezxoslbd&joezxoslbd&cgslbd&THREE-D TOP-LIGHTEDslbe*BOTTOM-LIGHTEDslbe&cgslbe",
   "&jocgeqgcasslbd,ykasslbd&SQUATcgslbd&joCONCAVE-POINTEDcgslbd&RIGHT-SHADEDzdslbd",
   "&LEFT-SHADEDzdslbd&BACK-TILTEDtuzdslbd&FRONT-TILTEDtuzdslbd&joncsjzdslbd*yisjzdslbd",
   "&pbncsjzdslbd&eona&pbyisjzdslbd&dnjozdslbd&WHITE-FEATHEREDslbd&BLACK-FEATHEREDuxgfbd*slbd",
   "*oygfbd&joBLACK-FEATHEREDuxgfbd+slbd+oygfbd&TEARDROP-BARBEDslbd&joTEARDROP-SHANKEDslbd",
   "&WEDGE-TAILEDslbd&joWEDGE-TAILEDslbd&OPEN-OUTLINEDslbd&fxeona&wyDIMENSIONALat&zdxnebuszdxn",
   "&PERPENDICULAR&pvvn*vs&mhS-SHAPED BAG DELIMITER&sgS-SHAPED BAG DELIMITER&pyzeftkm",
   "&scuvPRECEDINGvn&vsPRECEDINGuv&ypbtzejwvj&nosnfi&myfr&nohifi&vdmxas+py&zdflzeddft&aszeft",
   "&gnpnOPENINGyk&ncsgefzeft&yimhefzeft&mhOUTER JOIN&sgOUTER JOIN&ifOUTER JOIN&mdyfvz*gavz",
   "&mhassgfxxx,vz*MULTIMAP&mysgvz*mhvz&yfvzzedmad&ndDIVIDED BYjwRULE&zdCONCAVE-SIDEDfl,zemlTICK",
   ":slTICK*vczemlTICK,slTICK&nomhzdvccm*sgzdvccm*mhatcm*sgatcm*mhfxatcm*sgfxatcm*mhzdxltzcm",
   "*sgzdxltzcm*mhFLATTENEDqm*sgFLATTENEDqm&ykrpbd&gcrpbd&auGAPPEDdmbd&drGAPPEDdmbd&sgbdzednqz",
   "&mymlbd*slbd*mhsgbd*mlfxbd*slfxbd*mhsgfxbd*mlbdiebt*slbdiebt*mlfxbdiebt*slfxbdiebt+SQUIGGLEbd",
   "&BRAILLE PATTERN BLANK+DOTS-1+DOTS-2+DOTS-12+DOTS-3+DOTS-13+DOTS-23+DOTS-123+DOTS-4+DOTS-14",
   "+DOTS-24+DOTS-124+DOTS-34+DOTS-134+DOTS-234+DOTS-1234+DOTS-5+DOTS-15+DOTS-25+DOTS-125+DOTS-35",
   "+DOTS-135+DOTS-235+DOTS-1235+DOTS-45+DOTS-145+DOTS-245+DOTS-1245+DOTS-345+DOTS-1345+DOTS-2345",
   "+DOTS-12345+DOTS-6+DOTS-16+DOTS-26+DOTS-126+DOTS-36+DOTS-136+DOTS-236+DOTS-1236+DOTS-46",
   "+DOTS-146+DOTS-246+DOTS-1246+DOTS-346+DOTS-1346+DOTS-2346+DOTS-12346+DOTS-56+DOTS-156+DOTS-256",
   "+DOTS-1256+DOTS-356+DOTS-1356+DOTS-2356+DOTS-12356+DOTS-456+DOTS-1456+DOTS-2456+DOTS-12456",
   "+DOTS-3456+DOTS-13456+DOTS-23456+DOTS-123456+DOTS-7+DOTS-17+DOTS-27+DOTS-127+DOTS-37+DOTS-137",
   "+DOTS-237+DOTS-1237+DOTS-47+DOTS-147+DOTS-247+DOTS-1247+DOTS-347+DOTS-1347+DOTS-2347",
   "+DOTS-12347+DOTS-57+DOTS-157+DOTS-257+DOTS-1257+DOTS-357+DOTS-1357+DOTS-2357+DOTS-12357",
   "+DOTS-457+DOTS-1457+DOTS-2457+DOTS-12457+DOTS-3457+DOTS-13457+DOTS-23457+DOTS-123457+DOTS-67",
   "+DOTS-167+DOTS-267+DOTS-1267+DOTS-367+DOTS-1367+DOTS-2367+DOTS-12367+DOTS-467+DOTS-1467",
   "+DOTS-2467+DOTS-12467+DOTS-3467+DOTS-13467+DOTS-23467+DOTS-123467+DOTS-567+DOTS-1567+DOTS-2567",
   "+DOTS-12567+DOTS-3567+DOTS-13567+DOTS-23567+DOTS-123567+DOTS-4567+DOTS-14567+DOTS-24567",
   "+DOTS-124567+DOTS-34567+DOTS-134567+DOTS-234567+DOTS-1234567+DOTS-8+DOTS-18+DOTS-28+DOTS-128",
   "+DOTS-38+DOTS-138+DOTS-238+DOTS-1238+DOTS-48+DOTS-148+DOTS-248+DOTS-1248+DOTS-348+DOTS-1348",
   "+DOTS-2348+DOTS-12348+DOTS-58+DOTS-158+DOTS-258+DOTS-1258+DOTS-358+DOTS-1358+DOTS-2358",
   "+DOTS-12358+DOTS-458+DOTS-1458+DOTS-2458+DOTS-12458+DOTS-3458+DOTS-13458+DOTS-23458",
   "+DOTS-123458+DOTS-68+DOTS-168+DOTS-268+DOTS-1268+DOTS-368+DOTS-1368+DOTS-2368+DOTS-12368",
   "+DOTS-468+DOTS-1468+DOTS-2468+DOTS-12468+DOTS-3468+DOTS-13468+DOTS-23468+DOTS-123468+DOTS-568",
   "+DOTS-1568+DOTS-2568+DOTS-12568+DOTS-3568+DOTS-13568+DOTS-23568+DOTS-123568+DOTS-4568",
   "+DOTS-14568+DOTS-24568+DOTS-124568+DOTS-34568+DOTS-134568+DOTS-234568+DOTS-1234568+DOTS-78",
   "+DOTS-178+DOTS-278+DOTS-1278+DOTS-378+DOTS-1378+DOTS-2378+DOTS-12378+DOTS-478+DOTS-1478",
   "+DOTS-2478+DOTS-12478+DOTS-3478+DOTS-13478+DOTS-23478+DOTS-123478+DOTS-578+DOTS-1578+DOTS-2578",
   "+DOTS-12578+DOTS-3578+DOTS-13578+DOTS-23578+DOTS-123578+DOTS-4578+DOTS-14578+DOTS-24578",
   "+DOTS-124578+DOTS-34578+DOTS-134578+DOTS-234578+DOTS-1234578+DOTS-678+DOTS-1678+DOTS-2678",
   "+DOTS-12678+DOTS-3678+DOTS-13678+DOTS-23678+DOTS-123678+DOTS-4678+DOTS-14678+DOTS-24678",
   "+DOTS-124678+DOTS-34678+DOTS-134678+DOTS-234678+DOTS-1234678+DOTS-5678+DOTS-15678+DOTS-25678",
   "+DOTS-125678+DOTS-35678+DOTS-135678+DOTS-235678+DOTS-1235678+DOTS-45678+DOTS-145678",
   "+DOTS-245678+DOTS-1245678+DOTS-345678+DOTS-1345678+DOTS-2345678+DOTS-12345678&slycbdzeypvj",
   ":fxypvj&mlfxbdzeypvj&slfxbdzeypvj&mhsgfxbdzeypvj&slycbdiebt&mlfxbdiebt&slfxbdiebt&gcbdzejwvj",
   "&ykbdzejwvj*xqbd&gcxqbd&mlfxeybd&slfxeybd&mlxqeybd&slxqeybd*ycxqeybd*bdzefwSTEM&ykbdxebt",
   "&gcbdxebt&slbdzewbzeypvj;fxypvj*ycbdzewb;zeypvj<fxypvj&mlARROW-TAIL&slARROW-TAIL",
   "&mlfxARROW-TAIL&slfxARROW-TAIL&mlbdxecgfl&slbdxecgfl&mlbdiebtxecgfl&slbdiebtxecgfl",
   "&oyzbasuxgfbd*gfasuxzbbd*zbbdzejv*gfbdzejv&uxgfbdzejv*zbbdzejv&oyzbbdasoygfbd*gfbdasuxgfbd",
   "&uxgfbdasuxzbbd*zbbdasoyzbbd&snfielhifi&hifielsnfi&uxgfbdeloygfbd&oygfbdeluxgfbd&hifieloygfbd",
   "&snfieluxgfbd&oygfbdeloyzbbd*zbbdeloygfbd&yzbdrcDIRECTLYsg&bdrcslTHEN CURVINGyk;gc",
   "+gcTHEN CURVINGml;sl&RIGHT-SIDE ARCdrbd&LEFT-SIDE ARCaubd&xkARCaubd&ckARCaubd&xkARCdrbdzenw",
   "+aubdzeqz&ncsgSEMICIRCULARdrbd*mhSEMICIRCULARaubd&audsdmbd&drdsdmbd&slbdaducmlbd&mlbdaducslbd",
   "&ucslbdadmlbd&slbdzeqzbx&mlbdzeqzbx&slbdwzX&mhsgbdwzusdm&ykycbdieusdm&mhbuyfsgbugajj",
   "+gasgbuyfjj&yfbusggabumhjj+mhgabusgjj&mhbuyfsgbuyfjj&yfbusggabusgjj&mhbugasgbugajj",
   "&yfbumhgabumhjj&mljjzebuyfxebt&sljjzebuyfxebt&ykjjzebusgxebt&gcjjzebusgxebt&mljjzebugaxebt",
   "&sljjzebugaxebt&ykjjzebumhxebt&gcjjzebumhxebt&mljjzebuyfiebt&sljjzebuyfiebt&ykjjzebusgiebt",
   "&gcjjzebusgiebt&mljjzebugaiebt&sljjzebugaiebt&ykjjzebumhiebt&gcjjzebumhiebt",
   "&mljjzebuyfadmljjzebuga&ykjjzebumhbzykjjzebusg&sljjzebuyfadsljjzebuga&gcjjzebumhbzgcjjzebusg",
   "&mljjzebuyfadsljjzebuyf:gaadsljjzebuga&sljjzebuyfadmljjzebuyf:gaadmljjzebuga&mljjzebuyfadmyey",
   ":gabxmyey&sljjzebuyfadmyey:gabxmyey&ykjjzebumhbzgcjjzebusg&gcjjzebumhbzykjjzebusg&sgfxbdzestjl",
   "&gvuhadslbd&xcpwadslbd&mlbdadxcpw&slbdadxcpw,alguxe&mpadmlbd&mlbdwzmp&isadslbd&vnadslbd",
   "&mlbdwzvn&vsadmlbd&mhFISHwb&sgFISHwb&yfFISHwb&gaFISHwb&xqypbtDELIMITER&ZpaSPOT+TYPEdu&mhzdeocm",
   "&sgzdeocm&mhzdqm&sgzdqm&ZpamhIMAGEcm+sgIMAGEcm+mhBINDINGcm+sgBINDINGcm&mhvccmzeyd&sgvccmzeyd",
   "&mhvccmzeTICKkfxkef&sgvccmzeTICKkfckef&mhvccmzeTICKkfckef&sgvccmzeTICKkfxkef&mhatcmzeft",
   "&sgatcmzeft&mhARCmpcm&sgARCiscm&fxmhARCiscm*sgARCmpcm&mhcgxltzcm&sgcgxltzcm&fwFENCE&ypzzmt",
   "&MEASUREDatOPENINGmh&sgatyozevc&MEASUREDsgatzeft&atzeSkm&afat&SPHERICALatOPENINGmh,yf&xwat",
   "&sdat&atzeyd&sdatzeyd&pkatOPENINGyf,ga&MEASUREDatzepvARM ENDINGkfbdrcyfassg_mh~gaassg_mh",
   "~sgasyf~mhasyf~sgasga~mhasga&sdEMPTY SET&EMPTY SETzeqd,usdmad,sgbdad,mhbdad&dmzejwbt&dnypbt*ql",
   "*scuv*PERPENDICULAR&dmDIVIDED BYjwbtasxkiyDIVIDED BYypbt*zeSUPERIMPOSED X",
   "&dnANTICLOCKWISE-ROTATEDfruh&yfbdwzdm&dnzdcp*cp*mp*is&dmzeusdmxewnsg+ybjwSTROKESxewnsg",
   "&vdsnfiur*hifiur*bh*usdm*vc&ybJOINED SQUARES&xnzeftad+yd&Skfxn&xnzeSERIFS ATck&sgxnadmhxn",
   "&mhxnbzypbt&ypbtbzsgxn&BOWTIEzemhiycg+sgiycg&cgBOWTIE&xdzemhiycg+sgiycg&zdHOURGLASS",
   "&cgHOURGLASS&mhWIGGLY FENCE&sgWIGGLY FENCE&mhfxWIGGLY FENCE&sgfxWIGGLY FENCE&INCOMPLETEkj",
   "&TIEqckj&kjNEGATEDzeypbt&DOUBLE-ENDED MULTIMAP&vczeCONTOURED OUTLINE&INCREASES AS&SHUFFLErh",
   "&gvuhasuqql;zexcad&IDENTICALxeasuqql&GLEICH STARK&THERMODYNAMIC&gbxnzemhiycg,sgiycg&cgflzegabd",
   "*nd&zddmzegabd&cgdmzegabd&ERROR-BARREDzdvc*cgvc*zdfl*cgfl*zddm*cgdm&RULE-DELAYED&scuvpw&uvzeqd",
   "&scuvzejwvj&BIGuv*scuv&fxqz&xqqz&mieqatcm&sieqatcm&TINY&MINY&N-ARYdnftpw+qzpw+xdpw*yepwzeft:qz",
   "*vckqpw+yepw&ybmxaspw+pypw&N-ARYxdpw&MODULOybSUM&SUMMATIONzeko&rpkopw&FINITE PARTko&kozefxvj",
   "*AVERAGEzeur&CIRCULATION FUNCTION&auINTEGRATION&mtINTEGRATIONzeRECTANGULAR PATH AROUND POLE",
   ",SEMICIRCULAR PATH AROUND POLE+ozINCLUDINGwnPOLE&koAROUND Arapw&QUATERNIONkopw&kozemlbdzejv",
   "+xduh+kq+ye+qd+yd&JOIN&mdmhxnpw&ZpaSCHEMA COMPOSITION,PIPING,PROJECTION&qzuhzeusdmad,dpaead",
   ",xcad,ftbx,xcbx,vmyb,cgxn&nwuhzedwad,ftbx,hifv,snfv&qzuhkfmhiydm,sgiydm&VECTORpyeirh",
   "&ohuhzeftad,yd&tmrhzeckds&SMASHrh&ohuhkfmhiydm,sgiydm&dnohuhzedpae&ohuhkffxdm&dnfruh&qzuhkfxn",
   "&nwuhkfxn&ohuhkfxn&INTERIORrh&RIGHTHAND INTERIORrh&ZpaRELATIONAL COMPOSITION",
   "&AMALGAMATIONpyCOPRODUCT&kqzeft&yezenwuh+qd&kqzeqd+mxas&yezemxpy*adkq&kqadye&yeadbtadkq",
   "&kqadbtadye&yebzasJOINEDzeye&kqbzasJOINEDzekq&dsyezeSERIFS*kqzeSERIFS&fxvckq+ye",
   "&dsyezeSERIFSasSMASHrh&mxaszeftad*pyzeftad&fxmxas+py&ybINTERSECTINGmxas,py&SLOPINGmdpy+as",
   "&mxpyOVERLAPPINGmxas*aszentSTEM*pyzentSTEM*aszejwey*pyzejwey*aszefxqd,yd,fxyd&usVEEzeyd",
   "&mxpyzefxqd:yd&ZpaDOMAIN ANTIRESTRICTION+RANGE ANTIRESTRICTION&gvuhzeftbx&IDENTICALzeftad",
   "&xqjwbtzefxypvj:xqypvj&xcpwzeftad,snfv&ujnwuj&CONGRUENTzeftad&gvzebh&alguxezedpae&aygupyguxe",
   "&gvuhadqzuh&qzuhadgvuh&gvuhadxcpw&fxdugu&ybCONSECUTIVEgvSIGNS&wyCONSECUTIVEgvSIGNS",
   "&gvuhzeybfvadasybfvbx&gyzeibfvad&mpzedmkm&iszedmkm&mpzertnmad&iszertnmad&mppyuqguxe&ispyuqguxe",
   "&mppyuqguxezeftkm&ispyuqguxezeftkm&mppyuqguxezeftad&ispyuqguxezeftad&mppyuqguxezeftadsg",
   "&ispyuqguxezeftadmh&mppyAPPROXIMATE&ispyAPPROXIMATE&mpasulozguxe&isasulozguxe",
   "&mpasozAPPROXIMATE&isasozAPPROXIMATE&mpadfyguadis&isadfyguadmp&mpadujpygu&isadujpygu",
   "&mpadujadis&isadujadmp&mpadisadfygu&isadmpadfygu&mpaduqguadisaduqgu&isaduqguadmpaduqgu",
   "&uqguxepymp:is:mpzeftkm:iszeftkm&fyguxepymp:is*uqguxepymp;is&ujpymp+is*admpadgvuh+isadgvuh",
   "&fxNESTEDmp+is+mpzeyd&isOVERLAPPINGmp*bzmp&mpdsBYep&isdsBYep&mpdsBYepaduqgu&isdsBYepaduqgu",
   "&SMALLER THAN&LARGER THAN&SMALLER THANpyguxe&LARGER THANpyguxe&gvuhzeBUMPYad&readulgvuh",
   "&vqadulgvuh&readulozguxe&vqadulozguxe&readgvuh&vqadgvuh&readozguxe&vqadozguxe&readalguxe",
   "&vqadalguxe&readozalguxe&vqadozalguxe&fxre*vq&vnzeft&vszeft&vnzeqzuhbx&vszeqzuhbx&vnzeohuhbx",
   "&vszeohuhbx&vnpnpyguxezeftad&vspnpyguxezeftad&vnpnadgvuh&vspnadgvuh&vnpnadxcpw&vspnadxcpw",
   "&vnpnadalguxe&vspnadalguxe&vnpnadozguxe&vspnadozguxe&vcmhpvclpw*sgpvclpw&dsvn*vs*vnpyguxe",
   "*vspyguxe&vnadvs&vsadvn&vnadvn&vsadvs*bzvn+asJOINED BYeyzevn&gnpnOPENINGgc&PITCHFORKzeTEExk",
   "&TRANSVERSALkq&FORKING&NONFORKING&ucmhvz*gavz*yfvz&PERPENDICULARzeS&ypbtxqsgxx&fxypbtmhxx",
   "&ypbtfxmhxx&fxypbtfxmhxx&myeyiemhMEMBERpnfxyp&ucgavzzeqd*yfvzzeyd,aducgavz&fxgavz*yfvz*vjozuh",
   "&sdfxvjozuh&DOESozDIVIDEzesdNEGATIONur&ypmtzedmad:bx&gavzzedmbx&qlzejwvj+xcpw",
   "&xqypbtBINARY RELATION,zejwvj*dupw*NESTEDmp+is&fyuqmppyguxe+ispyguxe&xquvBINARY RELATION",
   "&mdxqypbtpw&fxuvpw&zdypbt&N-ARYzdypbt&oygfzdbd*zbzdbd&uxgfzdbd*zbzdbd&mhsgzdbd&mlcgbd&ykcgbd",
   "&gccgbd&oygfcgbd*zbcgbd&uxgfcgbd*zbcgbd&mhsgcgbd&yfgacgbd&slbdzeTIPgc:yk&mlbdzeTIPgc:yk",
   "&vczexkiycg+ckiycg+yisgfiiycg+ncmhfiiycg&flzemhiycg+sgiycg+xkiycg+ckiycg&fwvc&cgmdvc&zdmdvc",
   "&cgyrusvc&zdyrusvc&cgPENTAGON&zdPENTAGON*HEXAGON&cgHEXAGON&jwcgHEXAGON&cgmddm*nqfl&zdnqfl",
   "&cgnqnd&zdnqnd&cgusfl+nd&zdusnd&cgjwELLIPSE&zdjwELLIPSE&cgypELLIPSE&zdypELLIPSE&mhbdzeusdm",
   "&wymlbf&mhbdzednqz&mymlSQUIGGLEbd&mlycbdzeypvj:fxypvj,iebt+xqeybd*bdzefwSTEM,wbzeypvj;fxypvj",
   "*ycbdzewb;zeypvj<fxypvj*bdwzX&yzbdrcDIRECTLYmh&gvuhadmlbd&scxcpwadmlbd&mlbdadscalguxe&slbdwzis",
   ",vs&mlrpbd&slrpbd&scxcpwadslbd&slbdadscalguxe&xcpwadmlbd&mlbdadalguxe,scxcpw&slbdadscxcpw",
   "&gcxozzbd&ucuqoybd*BACKSLANTEDuxbd&zdnqvf&cgusvf&zdusvf&cgsiPENTAGON&zdsiPENTAGON&jomddm",
   "*OVALzeOVALkm*dmzedmkm*dm*dnta&uqoybdzeHOOKEDjl&BACKSLANTEDuxbdzeHOOKEDwb&uqoybdzejwwb",
   "&BACKSLANTEDuxbdzejwwb&bybdrcgcTHENoygf&ucbybdrcgcTHENoygf&mlxobd&ykxobd&slxobd&gcxobd",
   "&mhsgxobd&yfgaxobd&oyzbxobd*gfxobd&uxgfxobd*zbxobd&mlxoezbd&ykxoezbd&slxoezbd&gcxoezbd",
   "&drxopvdmbd&auxopvdmbd&mlxobdxebt&ykxobdxebt&slxobdxebt&gcxobdxebt^2B76&oyzbxobdxebt",
   "*gfxobdxebt&uxgfxobdxebt*zbxobdxebt&mlxobdzefxjwvj&ykxobdzefxjwvj&slxobdzefxjwvj",
   "&gcxobdzefxjwvj&jwTAB KEY&ypTAB KEY&mlxobdqcslxobd&ykxobdmlpngcxobd&slxobdqcmlxobd",
   "&gcxobdmlpnykxobd&mlxoqibf&ykxoqibf&slxoqibf&gcxoqibf&mlcgdnzdbd&ykcgdnzdbd&slcgdnzdbd",
   "&gccgdnzdbd&auxosgU-SHAPEDbd+ckU-SHAPEDbd+mhU-SHAPEDbd+xkU-SHAPEDbd&RETURNmh*sg&NEWLINEmh*sg",
   "&ibefbfCIRCLINGau&slcgbd^2B97&vwhxTYPE A ELECTRONICS&THREE-D TOP-LIGHTEDmlgxbe",
   "*RIGHT-LIGHTEDykgxbe*TOP-LIGHTEDslgxbe*LEFT-LIGHTEDgcgxbe&cgmlgxbe*ykgxbe*slgxbe*gcgxbe",
   "&gcxobdzemyTIPml<sl&ykxobdzemyTIPml<sl&mlxobdzemyTIPyk&slxobdzemyTIPyk&mlxobdzemyTIPgc",
   "&slxobdzemyTIPgc&cgeqgcasmlbd:slbd+ykasmlbd:slbd+mlasykbd+slasykbd+mlasgcbd+slasgcbd",
   "&RIBBONbdgamh,sg+yfmh,sg+mhyf+sgyf+mhga+sgga&ykzdbdiebtzejwbt&yfbekfArxcl&OVERLAPPINGzdSQUARES",
   "+ascgSQUARES*cgSQUARES&BALLOTclzemsX&dnX*cjX&cgvcdd*fldd&xwcgPENTAGON&jwcgOCTAGON&cgOCTAGON",
   "*nqygxndd+gbxndd+mixndd+sixndd&NEPTUNEhyyb&xkiycgdm&ckiycgdm&msibrbcgCUSP&spmsibrbcgCUSP",
   "&zdibrbCUSP&spzdibrbCUSP&vcPOSITIONki&UNCERTAINTYuh&GROUPnm&PLUTOhyyb+wy+ib+hu&TRANSPLUTO",
   "&PROSERPINA&ASTRAEA&HYGIEA&PHOLUS&NESSUS&zdnzSELENA&cgflpsei&TRUEmsnzARTA&CUPIDO&HADES&ZEUS",
   "&KRONOS&APOLLON&ADMETOS&VULCANUS&POSEIDON&mhiycgvf&sgiycgvf&vfzemhiycg+sgiycg",
   "&mlycbdzexnARROWHEADS&ykycbdzexnARROWHEADS&slycbdzexnARROWHEADS&gcycbdzexnARROWHEADS&ERIShypt",
   "+yb&SEDNA&RUSSIAN ASTROLOGICALvwVIGINTILE,NOVILE,QUINTILE,BINOVILE,SENTAGON,TREDECILE",
   "&gvuhzekjbx&UNITEDvw&SEPARATEDvw&DOUBLEDvw&PASSEDvw&sdsgat&HELLSCHREIBER PAUSEvw",
   "&GLAGOLITICcvmqAZU,BUKY,VEDE,GLAGOLI,DOBRO,YESTU,ZHIVETE,DZELO,ZEMLJA,IZHE,klIZHE,I,DJERVI",
   ",KAKO,LJUDIJE,MYSLITE,NASHI,ONU,POKOJI,RITSI,SLOVO,TVRIDO,UKU,FRITU,HERU,OTU,qq,SHTA,TSI",
   ",CHRIVI,tr,YERU,YERI,YATI,SPIDERYiw,zp,uszq;zewb,YO,IOTATEDuszq,BIGzq,IOTATED BIGzq,FITA",
   ",IZHITSA,SHTAPIC,TROKUTASTI A,LATINATE MYSLITE,CAUDATE CHRIVI*usmqAZU,BUKY,VEDE,GLAGOLI,DOBRO",
   ",YESTU,ZHIVETE,DZELO,ZEMLJA,IZHE,klIZHE,I,DJERVI,KAKO,LJUDIJE,MYSLITE,NASHI,ONU,POKOJI,RITSI",
   ",SLOVO,TVRIDO,UKU,FRITU,HERU,OTU,qq,SHTA,TSI,CHRIVI,tr,YERU,YERI,YATI,SPIDERYiw,zp,uszq;zewb",
   ",YO,IOTATEDuszq,BIGzq,IOTATED BIGzq,FITA,IZHITSA,SHTAPIC,TROKUTASTI A,LATINATE MYSLITE",
   ",CAUDATE CHRIVI&mfcvmqLzefxbt*usmqLzefxbt*cvmqLzentxc,Pzevj,Rzewb*usmqAzevj,Tzefivj*cvmqHzeff",
   "*usmqHzeff*cvmqKzeff*usmqKzeff*cvmqZzeff*usmqZzeff*cvmqan,Mzejv,xwA:an*usmqVzesgjv*cvmqWzejv",
   "*usmqWzejv,Vzeen*cvmqiyH*usmqiyH,TAILLESSqu,EzeNOTCH,xwRzewb,Ozenbsmkm*mquscvxwE*vmusmqJ",
   "&nxmqcvV&mfcvmqSzeSWASHwb,ZzeSWASHwb&eecvmqALFA*usmqALFA*cvmqVIDA*usmqVIDA*cvmqih*usmqih",
   "*cvmqDALDA*usmqDALDA*cvmqEIE*usmqEIE*cvmqSOU*usmqSOU*cvmqZATA*usmqZATA*cvmqHATE*usmqHATE",
   "*cvmqTHETHE*usmqTHETHE*cvmqIAUDA*usmqIAUDA*cvmqKAPA*usmqKAPA*cvmqLAULA*usmqLAULA*cvmqMI*usmqMI",
   "*cvmqNI*usmqNI*cvmqKSI*usmqKSI*cvmqO*usmqO*cvmqqw*usmqqw*cvmqRO*usmqRO*cvmqSIMA*usmqSIMA",
   "*cvmqwe*usmqwe*cvmqUA*usmqUA*cvmqFI*usmqFI*cvmqKHI*usmqKHI*cvmqrj*usmqrj*cvmqOOU*usmqOOU",
   "*cvmqfjaj*usmqfjaj*cvmqppeeah*usmqppeeah*cvmqemEIE*usmqemEIE*cvmqfjKAPA*usmqfjKAPA*cvmqfjNI",
   "*usmqfjNI*cvmqemNI*usmqemNI*cvmqppeeOOU*usmqppeeOOU*cvmqSAMPI*usmqSAMPI*cvmqejSHEI*usmqejSHEI",
   "*cvmqppeeSHEI*usmqppeeSHEI*cvmqppeegz*usmqppeegz*cvmqAKHMIMIC KHEI*usmqAKHMIMIC KHEI",
   "*cvmqfjHORI*usmqfjHORI*cvmqppeeHORI*usmqppeeHORI*cvmqppeeiw*usmqppeeiw*cvmqL-SHAPEDiw",
   "*usmqL-SHAPEDiw*cvmqppeeHEI*usmqppeeHEI*cvmqppeeHAT*usmqppeeHAT*cvmqppeeGANGIA*usmqppeeGANGIA",
   "*cvmqppeeDJA*usmqppeeDJA*cvmqppeeSHIMA*usmqppeeSHIMA*cvmqpppeSHIMA*usmqpppeSHIMA*cvmqpppeNGI",
   "*usmqpppeNGI*cvmqpppeNYI*usmqpppeNYI*cvmqpppeWAU*usmqpppeWAU*vwKAI+MI RO+qwRO+STAUROS+weRO",
   "+KHI RO+SHIMA SIMA*cvmqemSHEI*usmqemSHEI*cvmqemGANGIA*usmqemGANGIA*dvNIad+SPIRITUS ASPER,LENIS",
   "*cvmqBOHAIRIC KHEI*usmqBOHAIRIC KHEI^2CF9*pppeifvh,DIRECTrtnm,INDIRECTrtnm,VERSE DIVIDER",
   "*idptiy*ifvh*MORPHOLOGICAL DIVIDER&GEORGIANusmqar,BAN,GAN,DON,gq,VIN,ZEN,TAN,kf,KAN,LAS,nl,NAR",
   ",ps,PAR,ZHAR,RAE,SAN,TAR,UN,PHAR,KHAR,GHAN,QAR,ub,CHIN,CAN,JIL,CIL,CHAR,XAN,JHAN,HAE,jk,HIE,WE",
   ",HAR,HOE^2D27,YN^2D2D,AEN^2D30&TIFINAGHmqzj+YAB+YABH+YAG+YAGHH+BERBER ACADEMY YAJ+YAJ+YAD+YADH",
   "+YADD+YADDH+YEY+YAF+YAK+TUAREG YAK+YAKHH+YAH+BERBER ACADEMY YAH+TUAREG YAH+YAHH+YAA+YAKH",
   "+TUAREG YAKH+YAQ+TUAREG YAQ+YI+YAZH+AHAGGAR YAZH+TUAREG YAZH+YAL+YAM+YAN+TUAREG YAGN,zk+YAP+zp",
   "+YAR+YARR+YAGH+TUAREG YAGH+AYER YAGH+YAS+YASS+YASH+YAT+YATH+YACH+YATT+YAV+YAW+YAY+YAZ",
   "+TAWELLEMET YAZ+YAZZ+YE+YO^2D6F*nxmqLABIALIZATIONnm*tnnm^2D7F*eaJOINER&ETHIOPICvvLOA+MOA+ROA",
   "+SOA+SHOA+BOA+TOA+COA+NOA+NYOA+iqOA+ZOA+DOA+DDOA+JOA+THOA+CHOA+PHOA+POA+GGWA+GGWI+GGWEE+GGWE",
   "^2DA0+ve+SSU+SSI+SSAA+SSEE+SSE+SSO^2DA8+CCA+CCU+CCI+CCAA+CCEE+CCE+CCO^2DB0+ZZA+ZZU+ZZI+ZZAA",
   "+ZZEE+ZZE+ZZO^2DB8+CCHA+CCHU+CCHI+CCHAA+CCHEE+CCHE+CCHO^2DC0+QYA+QYU+QYI+QYAA+QYEE+QYE+QYO",
   "^2DC8+KYA+KYU+KYI+KYAA+KYEE+KYE+KYO^2DD0+XYA+XYU+XYI+XYAA+XYEE+XYE+XYO^2DD8+GYA+GYU+GYI+GYAA",
   "+GYEE+GYE+GYO^2DE0&dvermqBE,VE,in,DE,ZHE,ZE,le,EL,EM,gq,O,qq,ER,ES,wf,iw,TSE,dh,tr,SHCHA,FITA",
   ",ES-TE,A,IE,DJERV,MONOGRAPH UK,YAT,zp,kuA,muzq,BIGzq,kuBIGzq&sgatvonn+fwvonn&mhvocm&sgvocm",
   "&mhfwvocm&sgfwvocm&rwINTERPOLATIONnn*fwINTERPOLATIONnn&fwTRANSPOSITIONnn&mhTRANSPOSITIONcm",
   "&sgTRANSPOSITIONcm&rwvc&mhrwOMISSIONcm&sgrwOMISSIONcm&EDITORIAL CORONIS&PARAGRAPHOS",
   "&FORKED PARAGRAPHOS&sdFORKED PARAGRAPHOS&HYPODIASTOLE&fwOBELOS&gcANCORA&ykANCORA&fwsiat&fxpkjz",
   "&kskp&PALM BRANCH&jzzefh&xczesmad&mhnbPARAPHRASEcm&sgnbPARAPHRASEcm&xczeftad,bx&mhypbtzeQUILL",
   "&sgypbtzeQUILL&xkmhiycm*sgiycm&ckmhiycm*sgiycm&mhufUcm&sgufUcm&mhfxqm&sgfxqm&ybfvqcptftrl",
   "&ptftqcybfvrl&vdibftrl&huftnm&sdrtnm&ypxc&smra&zftnntft&xwdw&rwft*dw&xwtl&DAGGERzemhGUARD",
   "+sgGUARD&xwDAGGER&xkiytiuh&TWO-EMey&THREE-EMey&STENOGRAPHICifvh&ypumfv&WIGGLYypmt&CAPITULUM",
   "&fxjz&sddw&fxLOW-REVERSED-9runm&eyzemhUPTURN&fxSUSPENSIONnm&ksnbKAVYKA,zeKAVYKAad&nbKAVYKA",
   "+zeft&fxSTACKEDdw&fwuv&xqDAGGER&MEDIEVALdw&PARAGRAPHUSnm&PUNCTUS ELEVATUSnm",
   "&CORNISH VERSE DIVIDER&eiPATTYzesgCROSSBAR,mhCROSSBAR&TIRONIANuhcvET&MEDIEVALhbnm*rtnm",
   "&mhvccmzevj&sgvccmzevj&mhvccmzefxvj&sgvccmzefxvj&xkiymhqm+sgqm&ckiymhqm+sgqm&pkjz",
   "^2E80&CJK RADICAL REPEAT+CLIFF+SECONDpt,yb,wy+qs+cl+TABLE+KNIFEpt,yb+DIVINATION+SEAL+uspt,yb",
   "+LAMEpt,yb,wy,ib+SNAKE+THREAD+SNOUTpt,yb+jmpt,yb+ja+RAP^2E9B+CHOKE+SUN+nz+DEATH+MOTHER",
   "+CIVILIAN+yypt,yb+FIRE+PAWpt,yb+SIMPLIFIEDiyTREE TRUNK+COW+DOG+JADE+BOLTpnCLOTH+EYE+SPIRITpt",
   ",yb+BAMBOO+SILK+cqSILK+NETpt,yb,wy,ib+MESH+SHEEP+RAM+EWE+pp+BRUSHpt,yb+MEAT+MORTAR+GRASSpt,yb",
   ",wy+TIGER+CLOTHES+zbpt,yb+cqSEE+SIMPLIFIEDjx+jx+cqSPEECH,tz+FOOT+cqCART+SIMPLIFIED WALK+WALKpt",
   ",yb+CITY+cqGOLD+mypt,yb+cqmy,GATE+MOUNDpt,yb+RAIN+BLUE+cqTANNED LEATHER,mg,WIND,FLY+EATpt,yb",
   ",wy+cqEAT+jl+cqHORSE+BONE+GHOST+cqFISH,BIRD,SALT+SIMPLIFIED WHEAT,YELLOW+cqFROG+kyEVEN+cqEVEN",
   "+kyTOOTH+cqTOOTH+kygd+cqgd+TURTLE+kyTURTLE+cqTURTLE^2F00&KANGXI RADICALpt+mt+ft+ur+SECOND+jv",
   "+yb+LID+nl+LEGS+ENTER+gi+gacl+COVER+ICE+TABLE+pvcl+KNIFE+POWER+WRAP+SPOON+sgpvcl",
   "+HIDING ENCLOSURE+wk+DIVINATION+SEAL+CLIFF+PRIVATE+AGAIN+ob+ENCLOSURE+ge+SCHOLAR+GO,SLOWLY",
   "+EVENING+BIG+WOMAN+CHILD+ROOF+INCH+us+LAME+CORPSE+SPROUT+oa+RIVER+WORK+ONESELF+TURBAN+DRY",
   "+ucTHREAD+fwCLIFF+mySTRIDE+ybHANDS+SHOOT+BOW+SNOUT+BRISTLE+STEP+jm+HALBERD+DOOR+ja+BRANCH+RAP",
   "+tg+DIPPER+AXE+vc+oz+SUN+SAY+nz+TREE+LACK+vh+DEATH+WEAPON+DOoz+COMPARE+FUR+CLAN+STEAM+yy+FIRE",
   "+CLAW+FATHER+fxX+iyTREE TRUNK+SLICE+FANG+COW+DOG+PROFOUND+JADE+MELON+TILE+SWEET+LIFE+USE+FIELD",
   "+BOLTpnCLOTH+SICKNESS+fwTENT+zd+SKIN+fq+EYE+SPEAR+bd+STONE+SPIRIT+TRACK+GRAIN+CAVE+STAND",
   "+BAMBOO+RICE+SILK+JAR+NET+SHEEP+FEATHER+pp+as+PLOW+EAR+BRUSH+MEAT+MINISTER+SELF+ARRIVE+MORTAR",
   "+TONGUE+OPPOSE+BOAT+STOPPING+COLOR+GRASS+TIGER+INSECT+BLOOD+WALK ENCLOSURE+CLOTHES+zb+SEE+jx",
   "+SPEECH+VALLEY+BEAN+PIG+BADGER+tz+RED+RUN+FOOT+BODY+CART+BITTER+MORNING+WALK+CITY+WINE",
   "+DISTINGUISH+VILLAGE+GOLD+my+GATE+MOUND+SLAVE+ucTAILED BIRD+RAIN+BLUE+WRONG+hh+LEATHER",
   "+TANNED LEATHER+LEEK+uw+mg+WIND+FLY+EAT+jl+FRAGRANT+HORSE+BONE+TALL+HAIR+FIGHT",
   "+SACRIFICIAL WINE+CAULDRON+GHOST+FISH+BIRD+SALT+DEER+WHEAT+HEMP+YELLOW+MILLET+cg+EMBROIDERY",
   "+FROG+TRIPOD+DRUM+RAT+NOSE+EVEN+TOOTH+gd+TURTLE+FLUTE^2FF0&kcDESCRIPTIONdfmhxesg,adxebx",
   ",mhxentassg,adxentasbx,ifSURROUND,SURROUNDiead;bx;mh;yimh<sg;ncmh,OVERLAID"]

end Assay.Text.CharacterName
